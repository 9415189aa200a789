import Ingest.Proofs.Override

/-!
# Documents in a store, read as trees

A document of a store is a node, and what it stands for is a tree: `Store.Holds s e n cells` says
that node `n` of store `s` holds the tree `e`. A scalar node holds itself, a NaN is kept in a
container of its own, and a list or dictionary container holds the tree whose items its nodes
hold. `cells` lists the containers read on the way, once for every place where one is met: a
node holds a tree of its own, shared with nothing, when no container is listed twice.

The list of cells is what makes writes tractable. A store that agrees with `s` on `cells` holds
the same tree at `n` (`Holds.frame`). Focusing on the tree under a path (`Holds.focus`) splits
the cells into those of that subtree and the others, among which are the containers passed on
the way; whatever tree a change that keeps the other cells puts under the path, the document
then holds the tree with that subtree replaced, as `Element.setAt` builds it. The walks of the
store are thereby the walks on trees: a read through the store finds the node of the subtree that
the read of the tree finds, and fails where it fails, with the same miss.
-/

namespace Ingest

namespace Store

mutual
/-- Node `n` of store `s` holds the tree `e`, reading the containers `cells` on the way. -/
def Holds (s : Store) : Element → Node → List Nat → Prop
  | .scalar x, n, cells =>
    (n = .scalar x ∧ cells = []) ∨
      (∃ i f, n = .ref i ∧ s.read? i = some .nan ∧ x = .float f ∧ f.isNaN = true ∧ cells = [i])
  | .list items, n, cells =>
    ∃ i nodes rest, n = .ref i ∧ s.read? i = some (.list nodes) ∧ HoldsItems s items nodes rest ∧
      cells = i :: rest
  | .dict entries, n, cells =>
    ∃ i nodes rest, n = .ref i ∧ s.read? i = some (.dict nodes) ∧
      HoldsEntries s entries nodes rest ∧ cells = i :: rest

/-- The nodes of a list hold its items, in order. -/
def HoldsItems (s : Store) : List Element → List Node → List Nat → Prop
  | [], nodes, cells => nodes = [] ∧ cells = []
  | e :: es, nodes, cells =>
    ∃ n ns c rest, nodes = n :: ns ∧ Holds s e n c ∧ HoldsItems s es ns rest ∧ cells = c ++ rest

/-- The entries of a dictionary of nodes hold those of a dictionary of trees, key by key. -/
def HoldsEntries (s : Store) : List (String × Element) → Entries Node → List Nat → Prop
  | [], nodes, cells => nodes = [] ∧ cells = []
  | (k, e) :: es, nodes, cells =>
    ∃ n ns c rest, nodes = (k, n) :: ns ∧ Holds s e n c ∧ HoldsEntries s es ns rest ∧
      cells = c ++ rest
end

/-! ## Frames -/

mutual
/-- A store that agrees on the cells read holds the same tree. -/
theorem Holds.frame {s s' : Store} : ∀ {e : Element} {n : Node} {cells : List Nat},
    Holds s e n cells → (∀ i ∈ cells, s'.read? i = s.read? i) → Holds s' e n cells
  | .scalar x, n, cells, h, hs => by
    rcases h with h | ⟨i, f, rfl, hi, rfl, hf, rfl⟩
    · exact .inl h
    · exact .inr ⟨i, f, rfl, by rw [hs i (by simp), hi], rfl, hf, rfl⟩
  | .list items, n, cells, h, hs => by
    obtain ⟨i, nodes, rest, rfl, hi, hitems, rfl⟩ := h
    exact ⟨i, nodes, rest, rfl, by rw [hs i (by simp), hi],
      HoldsItems.frame hitems fun j hj => hs j (by simp [hj]), rfl⟩
  | .dict entries, n, cells, h, hs => by
    obtain ⟨i, nodes, rest, rfl, hi, hentries, rfl⟩ := h
    exact ⟨i, nodes, rest, rfl, by rw [hs i (by simp), hi],
      HoldsEntries.frame hentries fun j hj => hs j (by simp [hj]), rfl⟩

theorem HoldsItems.frame {s s' : Store} :
    ∀ {items : List Element} {nodes : List Node} {cells : List Nat},
      HoldsItems s items nodes cells → (∀ i ∈ cells, s'.read? i = s.read? i) →
        HoldsItems s' items nodes cells
  | [], _, _, h, _ => h
  | _ :: _, _, _, h, hs => by
    obtain ⟨n, ns, c, rest, rfl, he, hes, rfl⟩ := h
    exact ⟨n, ns, c, rest, rfl, Holds.frame he fun j hj => hs j (by simp [hj]),
      HoldsItems.frame hes fun j hj => hs j (by simp [hj]), rfl⟩

theorem HoldsEntries.frame {s s' : Store} :
    ∀ {entries : List (String × Element)} {nodes : Entries Node} {cells : List Nat},
      HoldsEntries s entries nodes cells → (∀ i ∈ cells, s'.read? i = s.read? i) →
        HoldsEntries s' entries nodes cells
  | [], _, _, h, _ => h
  | (_, _) :: _, _, _, h, hs => by
    obtain ⟨n, ns, c, rest, rfl, he, hes, rfl⟩ := h
    exact ⟨n, ns, c, rest, rfl, Holds.frame he fun j hj => hs j (by simp [hj]),
      HoldsEntries.frame hes fun j hj => hs j (by simp [hj]), rfl⟩
end

mutual
/-- The cells read are containers of the store. -/
theorem Holds.lt_size {s : Store} : ∀ {e : Element} {n : Node} {cells : List Nat},
    Holds s e n cells → ∀ i ∈ cells, i < s.cells.size
  | .scalar _, _, _, h, j, hj => by
    rcases h with ⟨-, rfl⟩ | ⟨i, f, -, hi, -, -, rfl⟩
    · simp at hj
    · simp only [List.mem_singleton] at hj
      exact hj ▸ read?_lt hi
  | .list _, _, _, h, j, hj => by
    obtain ⟨i, nodes, rest, -, hi, hitems, rfl⟩ := h
    rcases List.mem_cons.1 hj with rfl | hj
    · exact read?_lt hi
    · exact HoldsItems.lt_size hitems j hj
  | .dict _, _, _, h, j, hj => by
    obtain ⟨i, nodes, rest, -, hi, hentries, rfl⟩ := h
    rcases List.mem_cons.1 hj with rfl | hj
    · exact read?_lt hi
    · exact HoldsEntries.lt_size hentries j hj

theorem HoldsItems.lt_size {s : Store} :
    ∀ {items : List Element} {nodes : List Node} {cells : List Nat},
      HoldsItems s items nodes cells → ∀ i ∈ cells, i < s.cells.size
  | [], _, _, h, j, hj => by simp [h.2] at hj
  | _ :: _, _, _, h, j, hj => by
    obtain ⟨n, ns, c, rest, rfl, he, hes, rfl⟩ := h
    rcases List.mem_append.1 hj with hj | hj
    · exact Holds.lt_size he j hj
    · exact HoldsItems.lt_size hes j hj

theorem HoldsEntries.lt_size {s : Store} :
    ∀ {entries : List (String × Element)} {nodes : Entries Node} {cells : List Nat},
      HoldsEntries s entries nodes cells → ∀ i ∈ cells, i < s.cells.size
  | [], _, _, h, j, hj => by simp [h.2] at hj
  | (_, _) :: _, _, _, h, j, hj => by
    obtain ⟨n, ns, c, rest, rfl, he, hes, rfl⟩ := h
    rcases List.mem_append.1 hj with hj | hj
    · exact Holds.lt_size he j hj
    · exact HoldsEntries.lt_size hes j hj
end

mutual
/-- The cells of a node are fixed by the node and the store: whatever tree is read off it, the
same containers are read on the way. -/
theorem Holds.cells_eq {s : Store} : ∀ {e e' : Element} {n : Node} {c c' : List Nat},
    Holds s e n c → Holds s e' n c' → c = c'
  | .scalar _, .scalar _, _, _, _, h, h' => by
    rcases h with ⟨rfl, rfl⟩ | ⟨i, f, rfl, -, -, -, rfl⟩
    · rcases h' with ⟨-, rfl⟩ | ⟨j, g, hj, -⟩
      · rfl
      · cases hj
    · rcases h' with ⟨hn, -⟩ | ⟨j, g, hj, -, -, -, rfl⟩
      · cases hn
      · cases hj
        rfl
  | .scalar _, .list _, _, _, _, h, h' | .scalar _, .dict _, _, _, _, h, h' => by
    obtain ⟨i, nodes, rest, rfl, hi, -⟩ := h'
    rcases h with ⟨hn, -⟩ | ⟨j, f, hj, hj', -⟩
    · cases hn
    · cases hj
      rw [hi] at hj'
      cases hj'
  | .list _, .scalar _, _, _, _, h, h' | .dict _, .scalar _, _, _, _, h, h' => by
    obtain ⟨i, nodes, rest, rfl, hi, -⟩ := h
    rcases h' with ⟨hn, -⟩ | ⟨j, f, hj, hj', -⟩
    · cases hn
    · cases hj
      rw [hi] at hj'
      cases hj'
  | .list _, .dict _, _, _, _, h, h' | .dict _, .list _, _, _, _, h, h' => by
    obtain ⟨i, nodes, rest, rfl, hi, -⟩ := h
    obtain ⟨j, nodes', rest', hj, hj', -⟩ := h'
    cases hj
    rw [hi] at hj'
    cases hj'
  | .list _, .list _, _, _, _, h, h' => by
    obtain ⟨i, nodes, rest, rfl, hi, hitems, rfl⟩ := h
    obtain ⟨j, nodes', rest', hj, hj', hitems', rfl⟩ := h'
    cases hj
    rw [hi, Option.some.injEq, Cell.list.injEq] at hj'
    subst hj'
    rw [HoldsItems.cells_eq hitems hitems']
  | .dict _, .dict _, _, _, _, h, h' => by
    obtain ⟨i, nodes, rest, rfl, hi, hentries, rfl⟩ := h
    obtain ⟨j, nodes', rest', hj, hj', hentries', rfl⟩ := h'
    cases hj
    rw [hi, Option.some.injEq, Cell.dict.injEq] at hj'
    subst hj'
    rw [HoldsEntries.cells_eq hentries hentries']

theorem HoldsItems.cells_eq {s : Store} :
    ∀ {items items' : List Element} {nodes : List Node} {c c' : List Nat},
      HoldsItems s items nodes c → HoldsItems s items' nodes c' → c = c'
  | [], [], _, _, _, h, h' => h.2.trans h'.2.symm
  | [], _ :: _, _, _, _, h, h' => by
    obtain ⟨n, ns, -, -, hn, -⟩ := h'
    rw [h.1] at hn
    cases hn
  | _ :: _, [], _, _, _, h, h' => by
    obtain ⟨n, ns, -, -, hn, -⟩ := h
    rw [h'.1] at hn
    cases hn
  | _ :: _, _ :: _, _, _, _, h, h' => by
    obtain ⟨n, ns, c, rest, rfl, he, hes, rfl⟩ := h
    obtain ⟨n', ns', c', rest', hn, he', hes', rfl⟩ := h'
    rw [List.cons.injEq] at hn
    obtain ⟨rfl, rfl⟩ := hn
    rw [Holds.cells_eq he he', HoldsItems.cells_eq hes hes']

theorem HoldsEntries.cells_eq {s : Store} :
    ∀ {entries entries' : List (String × Element)} {nodes : Entries Node} {c c' : List Nat},
      HoldsEntries s entries nodes c → HoldsEntries s entries' nodes c' → c = c'
  | [], [], _, _, _, h, h' => h.2.trans h'.2.symm
  | [], (_, _) :: _, _, _, _, h, h' => by
    obtain ⟨n, ns, -, -, hn, -⟩ := h'
    rw [h.1] at hn
    cases hn
  | (_, _) :: _, [], _, _, _, h, h' => by
    obtain ⟨n, ns, -, -, hn, -⟩ := h
    rw [h'.1] at hn
    cases hn
  | (_, _) :: _, (_, _) :: _, _, _, _, h, h' => by
    obtain ⟨n, ns, c, rest, rfl, he, hes, rfl⟩ := h
    obtain ⟨n', ns', c', rest', hn, he', hes', rfl⟩ := h'
    simp only [List.cons.injEq, Prod.mk.injEq] at hn
    obtain ⟨⟨-, rfl⟩, rfl⟩ := hn
    rw [Holds.cells_eq he he', HoldsEntries.cells_eq hes hes']
end

@[simp] theorem read?_alloc_of_lt (s : Store) (c : Cell) {i : Nat} (h : i < s.cells.size) :
    (s.alloc c).2.read? i = s.read? i := by
  simp [read?, alloc, Array.getElem?_push, Nat.ne_of_lt h]

theorem read?_write_self (s : Store) {i : Nat} (c : Cell) (h : i < s.cells.size) :
    (s.write i c).read? i = some c := by
  simp [read?, write, h]

@[simp] theorem size_write (s : Store) (i : Nat) (c : Cell) :
    (s.write i c).cells.size = s.cells.size := by
  simp [write]

@[simp] theorem size_alloc (s : Store) (c : Cell) :
    (s.alloc c).2.cells.size = s.cells.size + 1 := by
  simp [Store.alloc]

/-- A new container changes no tree held before. -/
theorem Holds.alloc {s : Store} {e : Element} {n : Node} {cells : List Nat} (h : Holds s e n cells)
    (c : Cell) : Holds (s.alloc c).2 e n cells :=
  h.frame fun _ hi => read?_alloc_of_lt s c (h.lt_size _ hi)

/-! ## Trees put into the store -/

/-- `s'` keeps every container of `s`, and may have more after them. -/
def Extends (s s' : Store) : Prop :=
  s.cells.size ≤ s'.cells.size ∧ ∀ i < s.cells.size, s'.read? i = s.read? i

theorem Extends.refl (s : Store) : Extends s s := ⟨Nat.le_refl _, fun _ _ => rfl⟩

theorem Extends.trans {s₁ s₂ s₃ : Store} (h₁ : Extends s₁ s₂) (h₂ : Extends s₂ s₃) :
    Extends s₁ s₃ :=
  ⟨Nat.le_trans h₁.1 h₂.1, fun i hi => (h₂.2 i (Nat.lt_of_lt_of_le hi h₁.1)).trans (h₁.2 i hi)⟩

theorem extends_alloc (s : Store) (c : Cell) : Extends s (s.alloc c).2 :=
  ⟨by simp [alloc], fun _ hi => read?_alloc_of_lt s c hi⟩

theorem Holds.extend {s s' : Store} {e : Element} {n : Node} {cells : List Nat}
    (h : Holds s e n cells) (hs : Extends s s') : Holds s' e n cells :=
  h.frame fun i hi => hs.2 i (h.lt_size i hi)

theorem HoldsItems.extend {s s' : Store} {items : List Element} {nodes : List Node}
    {cells : List Nat} (h : HoldsItems s items nodes cells) (hs : Extends s s') :
    HoldsItems s' items nodes cells :=
  h.frame fun i hi => hs.2 i (h.lt_size i hi)

theorem HoldsEntries.extend {s s' : Store} {entries : List (String × Element)}
    {nodes : Entries Node} {cells : List Nat} (h : HoldsEntries s entries nodes cells)
    (hs : Extends s s') : HoldsEntries s' entries nodes cells :=
  h.frame fun i hi => hs.2 i (h.lt_size i hi)

/-- Two lists of cells, the first below a bound and the second from it on, meet nowhere. -/
theorem nodup_append_of_bound {c r : List Nat} {b : Nat} (hc : c.Nodup) (hr : r.Nodup)
    (hlt : ∀ j ∈ c, j < b) (hge : ∀ j ∈ r, b ≤ j) : (c ++ r).Nodup :=
  List.nodup_append.2 ⟨hc, hr, fun i hi j hj hij => by
    have := hlt i hi
    have := hge j hj
    omega⟩

/-- The node of a scalar holds it, in a new container of its own for a NaN. -/
theorem scalar_holds (s : Store) (x : Scalar) :
    Extends s (s.scalar x).2 ∧ ∃ cells, Holds (s.scalar x).2 (.scalar x) (s.scalar x).1 cells ∧
      cells.Nodup ∧ ∀ j ∈ cells, s.cells.size ≤ j := by
  cases x with
  | float f =>
    by_cases hf : f.isNaN = true
    · simp only [Store.scalar, hf, if_true]
      exact ⟨extends_alloc s _, [s.cells.size],
        .inr ⟨_, f, rfl, read?_alloc_self s _, rfl, hf, rfl⟩, by simp, by simp⟩
    · simp only [Store.scalar, hf]
      exact ⟨Extends.refl s, [], .inl ⟨rfl, rfl⟩, by simp, by simp⟩
  | _ => exact ⟨Extends.refl s, [], .inl ⟨rfl, rfl⟩, by simp, by simp⟩

mutual
/-- A tree put into the store is held by the node it is put at, in new containers, each met
once. -/
theorem install_holds : ∀ (e : Element) (s : Store),
    Extends s (s.install e).2 ∧ ∃ cells, Holds (s.install e).2 e (s.install e).1 cells ∧
      cells.Nodup ∧ ∀ j ∈ cells, s.cells.size ≤ j
  | .scalar x, s => scalar_holds s x
  | .list items, s => by
    have hI := installItems_holds items s
    simp only [install]
    generalize installItems items s = r at hI ⊢
    obtain ⟨nodes, s₁⟩ := r
    obtain ⟨hext, rest, hitems, hnodup, hge⟩ := hI
    refine ⟨hext.trans (extends_alloc s₁ _), s₁.cells.size :: rest,
      ⟨_, _, rest, rfl, read?_alloc_self s₁ _, hitems.extend (extends_alloc s₁ _), rfl⟩,
      List.nodup_cons.2 ⟨fun hin => Nat.lt_irrefl _ (hitems.lt_size _ hin), hnodup⟩, ?_⟩
    simpa using ⟨hext.1, hge⟩
  | .dict entries, s => by
    have hI := installEntries_holds entries s
    simp only [install]
    generalize installEntries entries s = r at hI ⊢
    obtain ⟨nodes, s₁⟩ := r
    obtain ⟨hext, rest, hentries, hnodup, hge⟩ := hI
    refine ⟨hext.trans (extends_alloc s₁ _), s₁.cells.size :: rest,
      ⟨_, _, rest, rfl, read?_alloc_self s₁ _, hentries.extend (extends_alloc s₁ _), rfl⟩,
      List.nodup_cons.2 ⟨fun hin => Nat.lt_irrefl _ (hentries.lt_size _ hin), hnodup⟩, ?_⟩
    simpa using ⟨hext.1, hge⟩

theorem installItems_holds : ∀ (items : List Element) (s : Store),
    Extends s (installItems items s).2 ∧ ∃ cells,
      HoldsItems (installItems items s).2 items (installItems items s).1 cells ∧
      cells.Nodup ∧ ∀ j ∈ cells, s.cells.size ≤ j
  | [], s => ⟨Extends.refl s, [], ⟨rfl, rfl⟩, by simp, by simp⟩
  | e :: es, s => by
    obtain ⟨hext, c, he, hc, hcge⟩ := install_holds e s
    obtain ⟨hext', r, hes, hr, hrge⟩ := installItems_holds es (s.install e).2
    simp only [installItems]
    refine ⟨hext.trans hext', c ++ r, ⟨_, _, c, r, rfl, he.extend hext', hes, rfl⟩,
      nodup_append_of_bound hc hr he.lt_size hrge, ?_⟩
    intro j hj
    rcases List.mem_append.1 hj with hj | hj
    · exact hcge j hj
    · exact Nat.le_trans hext.1 (hrge j hj)

theorem installEntries_holds : ∀ (entries : List (String × Element)) (s : Store),
    Extends s (installEntries entries s).2 ∧ ∃ cells,
      HoldsEntries (installEntries entries s).2 entries (installEntries entries s).1 cells ∧
      cells.Nodup ∧ ∀ j ∈ cells, s.cells.size ≤ j
  | [], s => ⟨Extends.refl s, [], ⟨rfl, rfl⟩, by simp, by simp⟩
  | (k, e) :: es, s => by
    obtain ⟨hext, c, he, hc, hcge⟩ := install_holds e s
    obtain ⟨hext', r, hes, hr, hrge⟩ := installEntries_holds es (s.install e).2
    simp only [installEntries]
    refine ⟨hext.trans hext', c ++ r, ⟨_, _, c, r, rfl, he.extend hext', hes, rfl⟩,
      nodup_append_of_bound hc hr he.lt_size hrge, ?_⟩
    intro j hj
    rcases List.mem_append.1 hj with hj | hj
    · exact hcge j hj
    · exact Nat.le_trans hext.1 (hrge j hj)
end

/-! ## One entry, one item -/

section Focus

variable {s : Store}

/-- A dictionary of nodes has the keys of the dictionary of trees it holds. -/
theorem HoldsEntries.lookup_eq_none {k : String} :
    ∀ {entries : List (String × Element)} {nodes : Entries Node} {cells : List Nat},
      HoldsEntries s entries nodes cells → Entries.lookup k entries = none →
        Entries.lookup k nodes = none
  | [], _, _, h, _ => by simp [h.1]
  | (k', _) :: _, _, _, h, hl => by
    obtain ⟨n, ns, c, rest, rfl, -, hes, rfl⟩ := h
    by_cases hk : k' = k
    · simp [Entries.lookup, hk] at hl
    · simp only [Entries.lookup, if_neg hk] at hl ⊢
      exact hes.lookup_eq_none hl

/-- The entry under `k`: its node holds the entry's tree, with cells apart from those of the other
entries; replaced by any tree held under cells that keep the others, or erased, it leaves a
dictionary that the dictionary of nodes, changed the same way, holds. -/
theorem HoldsEntries.focus {k : String} {x : Element} :
    ∀ {entries : List (String × Element)} {nodes : Entries Node} {cells : List Nat},
      HoldsEntries s entries nodes cells → Entries.lookup k entries = some x →
        ∃ n c others, Entries.lookup k nodes = some n ∧ Holds s x n c ∧
          cells.Perm (c ++ others) ∧
          (∃ others', HoldsEntries s (Entries.erase k entries) (Entries.erase k nodes) others' ∧
            others'.Perm others) ∧
          ∀ {s' : Store} {x' : Element} {n' : Node} {c' : List Nat},
            (∀ j ∈ others, s'.read? j = s.read? j) → Holds s' x' n' c' →
              ∃ cells', HoldsEntries s' (Entries.insert k x' entries) (Entries.insert k n' nodes)
                cells' ∧ cells'.Perm (c' ++ others)
  | [], _, _, _, hl => by simp at hl
  | (k', e) :: es, _, _, h, hl => by
    obtain ⟨n₀, ns, c₀, rest, rfl, he, hes, rfl⟩ := h
    by_cases hk : k' = k
    · subst hk
      simp only [Entries.lookup, if_true, Option.some.injEq] at hl
      subst hl
      refine ⟨n₀, c₀, rest, by simp [Entries.lookup], he, List.Perm.refl _,
        ⟨rest, by simpa [Entries.erase] using hes, List.Perm.refl _⟩, ?_⟩
      intro s' x' n' c' hs hx'
      refine ⟨c' ++ rest, ?_, List.Perm.refl _⟩
      simp only [Entries.insert, if_true]
      exact ⟨n', ns, c', rest, rfl, hx', hes.frame hs, rfl⟩
    · simp only [Entries.lookup, if_neg hk] at hl
      obtain ⟨n, c, others, hn, hx, hperm, ⟨others', herase, hperm'⟩, hreplace⟩ := hes.focus hl
      refine ⟨n, c, c₀ ++ others, by simpa [Entries.lookup, hk] using hn, hx,
        (hperm.append_left c₀).trans (List.perm_append_comm_assoc _ _ _),
        ⟨c₀ ++ others', ?_, hperm'.append_left c₀⟩, ?_⟩
      · simp only [Entries.erase, if_neg hk]
        exact ⟨n₀, Entries.erase k ns, c₀, others', rfl, he, herase, rfl⟩
      · intro s' x' n' c' hs hx'
        obtain ⟨cells', hcells', hperm''⟩ :=
          hreplace (fun j hj => hs j (by simp [hj])) hx'
        refine ⟨c₀ ++ cells', ?_,
          (hperm''.append_left c₀).trans (List.perm_append_comm_assoc _ _ _)⟩
        simp only [Entries.insert, if_neg hk]
        exact ⟨n₀, Entries.insert k n' ns, c₀, cells', rfl,
          he.frame fun j hj => hs j (by simp [hj]), hcells', rfl⟩

/-- An entry under a new key is added at the end of both dictionaries. -/
theorem HoldsEntries.insert_new {k : String} {x : Element} {n : Node} {c : List Nat}
    (hx : Holds s x n c) :
    ∀ {entries : List (String × Element)} {nodes : Entries Node} {cells : List Nat},
      HoldsEntries s entries nodes cells → Entries.lookup k entries = none →
        HoldsEntries s (Entries.insert k x entries) (Entries.insert k n nodes) (cells ++ c)
  | [], _, _, h, _ => by
    obtain ⟨rfl, rfl⟩ := h
    exact ⟨n, [], c, [], rfl, hx, ⟨rfl, rfl⟩, by simp⟩
  | (k', e) :: es, _, _, h, hl => by
    obtain ⟨n₀, ns, c₀, rest, rfl, he, hes, rfl⟩ := h
    have hk : ¬ k' = k := by
      intro hk
      simp [Entries.lookup, hk] at hl
    simp only [Entries.lookup, if_neg hk] at hl
    simp only [Entries.insert, if_neg hk]
    exact ⟨n₀, Entries.insert k n ns, c₀, rest ++ c, rfl, he, HoldsEntries.insert_new hx hes hl,
      by simp⟩

/-- A list of nodes has as many nodes as the list of trees it holds has items. -/
theorem HoldsItems.length_eq :
    ∀ {items : List Element} {nodes : List Node} {cells : List Nat},
      HoldsItems s items nodes cells → nodes.length = items.length
  | [], _, _, h => by simp [h.1]
  | _ :: _, _, _, h => by
    obtain ⟨n, ns, c, rest, rfl, -, hes, rfl⟩ := h
    simp [hes.length_eq]

/-- A list of nodes has no item where the list of trees it holds has none. -/
theorem HoldsItems.bind_getElem?_eq_none {items : List Element} {nodes : List Node}
    {cells : List Nat} (h : HoldsItems s items nodes cells) {part : String}
    (hc : (indexOf? part).bind (items[·]?) = none) : (indexOf? part).bind (nodes[·]?) = none := by
  cases hj : indexOf? part with
  | none => rfl
  | some j =>
    simp only [hj, Option.bind_some] at hc ⊢
    rw [List.getElem?_eq_none_iff] at hc ⊢
    rw [h.length_eq]
    exact hc

/-- The item at index `i`: its node holds the item, with cells apart from those of the other
items; replaced by any tree held under cells that keep the others, or removed, it leaves a list
that the list of nodes, changed the same way, holds. -/
theorem HoldsItems.focus {x : Element} :
    ∀ {i : Nat} {items : List Element} {nodes : List Node} {cells : List Nat},
      HoldsItems s items nodes cells → items[i]? = some x →
        ∃ n c others, nodes[i]? = some n ∧ Holds s x n c ∧ cells.Perm (c ++ others) ∧
          (∃ others', HoldsItems s (items.eraseIdx i) (nodes.eraseIdx i) others' ∧
            others'.Perm others) ∧
          ∀ {s' : Store} {x' : Element} {n' : Node} {c' : List Nat},
            (∀ j ∈ others, s'.read? j = s.read? j) → Holds s' x' n' c' →
              ∃ cells', HoldsItems s' (items.set i x') (nodes.set i n') cells' ∧
                cells'.Perm (c' ++ others)
  | _, [], _, _, _, hi => by simp at hi
  | 0, e :: es, _, _, h, hi => by
    obtain ⟨n₀, ns, c₀, rest, rfl, he, hes, rfl⟩ := h
    simp only [List.getElem?_cons_zero, Option.some.injEq] at hi
    subst hi
    refine ⟨n₀, c₀, rest, rfl, he, List.Perm.refl _, ⟨rest, by simpa using hes, List.Perm.refl _⟩,
      fun hs hx' => ⟨_, ⟨_, ns, _, rest, rfl, hx', hes.frame hs, rfl⟩, List.Perm.refl _⟩⟩
  | i + 1, e :: es, _, _, h, hi => by
    obtain ⟨n₀, ns, c₀, rest, rfl, he, hes, rfl⟩ := h
    simp only [List.getElem?_cons_succ] at hi
    obtain ⟨n, c, others, hn, hx, hperm, ⟨others', herase, hperm'⟩, hreplace⟩ := hes.focus hi
    refine ⟨n, c, c₀ ++ others, by simpa using hn, hx,
      (hperm.append_left c₀).trans (List.perm_append_comm_assoc _ _ _),
      ⟨c₀ ++ others', ⟨n₀, _, c₀, others', rfl, he, herase, rfl⟩, hperm'.append_left c₀⟩, ?_⟩
    intro s' x' n' c' hs hx'
    obtain ⟨cells', hcells', hperm''⟩ := hreplace (fun j hj => hs j (by simp [hj])) hx'
    exact ⟨c₀ ++ cells', ⟨n₀, _, c₀, cells', rfl, he.frame fun j hj => hs j (by simp [hj]),
      hcells', rfl⟩, (hperm''.append_left c₀).trans (List.perm_append_comm_assoc _ _ _)⟩


/-! ## The tree under a path -/

theorem child?_of_dict {i : Nat} {nodes : Entries Node} (h : s.read? i = some (.dict nodes))
    (part : String) : s.child? part (.ref i) = Entries.lookup part nodes := by
  simp [child?, h]

theorem child?_of_list {i : Nat} {nodes : List Node} (h : s.read? i = some (.list nodes))
    (part : String) : s.child? part (.ref i) = (indexOf? part).bind (nodes[·]?) := by
  simp [child?, h]

/-- A node that holds a scalar has nothing under any part. -/
theorem Holds.child?_of_scalar {x : Scalar} {n : Node} {cells : List Nat}
    (h : Holds s (.scalar x) n cells) (part : String) : s.child? part n = none := by
  rcases h with ⟨rfl, -⟩ | ⟨i, f, rfl, hi, -⟩
  · rfl
  · simp [child?, hi]

/-- Focusing one part further: the cells of the container come first among the others. -/
theorem perm_focus_cons {i : Nat} {rest a b c o : List Nat} (h₁ : rest.Perm (a ++ b))
    (h₂ : a.Perm (c ++ o)) : (i :: rest).Perm (c ++ i :: (o ++ b)) := by
  have h₃ : (i :: ((c ++ o) ++ b)).Perm (c ++ i :: (o ++ b)) := by
    rw [List.append_assoc]
    exact List.perm_middle.symm
  exact ((h₁.trans (h₂.append_right b)).cons i).trans h₃

/-- One part down: the container's node under `part` holds the child of the tree there, with
cells apart from the container and its other children; any tree held under cells that keep those
can take its place, and the container then holds the tree with that child replaced. -/
theorem Holds.focus_child {part : String} {depth : Nat} {e x : Element} {n : Node}
    {cells : List Nat} (h : Holds s e n cells) (hx : Element.getAt [part] depth e = .ok x) :
    ∃ i nc rest c others, n = .ref i ∧ cells = i :: rest ∧ s.child? part n = some nc ∧
      Holds s x nc c ∧ rest.Perm (c ++ others) ∧
      ∀ {s' : Store} {x' : Element} {c' : List Nat},
        (∀ j ∈ i :: others, s'.read? j = s.read? j) → Holds s' x' nc c' →
          ∃ e' cells', Element.setAt x' true [part] depth e = .ok e' ∧
            Holds s' e' n (i :: cells') ∧ cells'.Perm (c' ++ others) := by
  cases e with
  | scalar _ => simp at hx
  | dict entries =>
    obtain ⟨i, nodes, rest, rfl, hi, hentries, rfl⟩ := h
    obtain ⟨child, hl, hget⟩ := Element.getAt_cons_dict_ok hx
    simp only [Element.getAt_nil, Except.ok.injEq] at hget
    subst hget
    obtain ⟨nc, c, others, hnc, hchild, hperm, -, hreplace⟩ := hentries.focus hl
    refine ⟨i, nc, rest, c, others, rfl, rfl, by rw [child?_of_dict hi, hnc], hchild, hperm, ?_⟩
    intro s' x' c' hs hx'
    obtain ⟨cells', hcells', hperm'⟩ := hreplace (fun j hj => hs j (List.mem_cons_of_mem _ hj)) hx'
    -- the container keeps its node under the key, so its own cell is unchanged
    rw [Entries.insert_of_lookup hnc] at hcells'
    exact ⟨.dict (Entries.insert part x' entries), cells', by simp, ⟨i, nodes, cells', rfl,
      by rw [hs i List.mem_cons_self, hi], hcells', rfl⟩, hperm'⟩
  | list items =>
    obtain ⟨i, nodes, rest, rfl, hi, hitems, rfl⟩ := h
    obtain ⟨k, child, hk, hc, hget⟩ := Element.getAt_cons_list_ok hx
    simp only [Element.getAt_nil, Except.ok.injEq] at hget
    subst hget
    obtain ⟨nc, c, others, hnc, hchild, hperm, -, hreplace⟩ := hitems.focus hc
    refine ⟨i, nc, rest, c, others, rfl, rfl, by rw [child?_of_list hi, hk, Option.bind_some, hnc],
      hchild, hperm, ?_⟩
    intro s' x' c' hs hx'
    obtain ⟨cells', hcells', hperm'⟩ := hreplace (fun j hj => hs j (List.mem_cons_of_mem _ hj)) hx'
    obtain ⟨hlt, rfl⟩ := List.getElem?_eq_some_iff.mp hnc
    rw [List.set_getElem_self hlt] at hcells'
    exact ⟨.list (items.set k x'), cells', by simp [hk, hc, Except.map], ⟨i, nodes, cells', rfl,
      by rw [hs i List.mem_cons_self, hi], hcells', rfl⟩, hperm'⟩

/-- The tree under a path: the read through the store finds the node that holds it, with cells
apart from the others, among which are the containers passed on the way; any tree held under
cells that keep the others can take its place, and the document then holds the tree with that
subtree replaced. -/
theorem Holds.focus :
    ∀ (path : List String) (depth : Nat) {e : Element} {n : Node} {cells : List Nat}
      {x : Element}, Holds s e n cells → Element.getAt path depth e = .ok x →
        ∃ m c others, s.getAt path depth n = .ok m ∧ Holds s x m c ∧ cells.Perm (c ++ others) ∧
          (∀ k < path.length, ∀ i, s.getAt (path.take k) depth n = .ok (.ref i) → i ∈ others) ∧
          ∀ {s' : Store} {x' : Element} {c' : List Nat},
            (∀ j ∈ others, s'.read? j = s.read? j) → Holds s' x' m c' →
              ∃ e' cells', Element.setAt x' true path depth e = .ok e' ∧
                Holds s' e' n cells' ∧ cells'.Perm (c' ++ others)
  | [], depth, e, n, cells, x, h, hget => by
    simp only [Element.getAt_nil, Except.ok.injEq] at hget
    subst hget
    refine ⟨n, cells, [], rfl, h, by simp, by simp, fun _ hx' => ⟨_, _, rfl, hx', by simp⟩⟩
  | part :: rest, depth, e, n, cells, x, h, hget => by
    -- one part down into the container, then the rest of the path below the child
    have hsplit : Element.getAt (part :: rest) depth e =
        (Element.getAt [part] depth e).bind (Element.getAt rest (depth + 1)) :=
      Element.getAt_append [part] rest depth e
    cases hc : Element.getAt [part] depth e with
    | error _ => rw [hsplit, hc] at hget; cases hget
    | ok child =>
      rw [hsplit, hc] at hget
      obtain ⟨i, nc, cs, cc, oc, rfl, rfl, hstep, hchild, hperm, hreplace⟩ := h.focus_child hc
      obtain ⟨m, c, o, hm, hx, hperm', hpassed, hreplace'⟩ :=
        Holds.focus rest (depth + 1) hchild hget
      refine ⟨m, c, i :: (o ++ oc), by rw [getAt_cons_some hstep, hm], hx,
        perm_focus_cons hperm hperm', ?_, ?_⟩
      · -- the container itself, then the containers passed below the child
        intro k hk j hj
        cases k with
        | zero =>
          simp only [List.take_zero, getAt_nil, Except.ok.injEq, Node.ref.injEq] at hj
          simp [hj]
        | succ k =>
          rw [List.take_succ_cons, getAt_cons_some hstep] at hj
          exact List.mem_cons_of_mem _ (List.mem_append_left _
            (hpassed k (by simpa using hk) j hj))
      · intro s' x' c' hs hx'
        obtain ⟨ec', cc', hset, hec', hpermc⟩ := hreplace' (fun j hj => hs j (by simp [hj])) hx'
        obtain ⟨e', ce', hset', hce', hperme⟩ := hreplace
          (fun j hj => hs j (List.cons_subset_cons i (List.subset_append_right o oc) hj)) hec'
        refine ⟨e', i :: ce', ?_, hce', perm_focus_cons hperme hpermc⟩
        rw [← List.singleton_append, Element.setAt_append x' [part] hc, List.length_singleton, hset]
        exact hset'

/-- A read through the store fails where the read of the tree held fails, with the same miss. -/
theorem Holds.getAt_error :
    ∀ (path : List String) (depth : Nat) {e : Element} {n : Node} {cells : List Nat}
      {miss : PathMiss}, Holds s e n cells → Element.getAt path depth e = .error miss →
        s.getAt path depth n = .error miss
  | [], _, _, _, _, _, _, hget => by simp at hget
  | part :: rest, depth, e, n, cells, miss, h, hget => by
    cases e with
    | scalar _ =>
      simp only [Element.getAt_cons_scalar, Except.error.injEq] at hget
      rw [getAt_cons_none (h.child?_of_scalar part), hget]
    | dict entries =>
      obtain ⟨i, nodes, cs, rfl, hi, hentries, rfl⟩ := h
      cases hl : Entries.lookup part entries with
      | none =>
        simp only [Element.getAt_cons_dict, hl, Except.error.injEq] at hget
        rw [getAt_cons_none (by rw [child?_of_dict hi, hentries.lookup_eq_none hl]), hget]
      | some child =>
        simp only [Element.getAt_cons_dict, hl] at hget
        obtain ⟨nc, cc, -, hnc, hchild, -⟩ := hentries.focus hl
        rw [getAt_cons_some (by rw [child?_of_dict hi, hnc])]
        exact Holds.getAt_error rest (depth + 1) hchild hget
    | list items =>
      obtain ⟨i, nodes, cs, rfl, hi, hitems, rfl⟩ := h
      cases hc : (indexOf? part).bind (items[·]?) with
      | none =>
        simp only [Element.getAt_cons_list, hc, Except.error.injEq] at hget
        rw [getAt_cons_none (by rw [child?_of_list hi, hitems.bind_getElem?_eq_none hc]), hget]
      | some child =>
        simp only [Element.getAt_cons_list, hc] at hget
        obtain ⟨j, hj, hchild⟩ := Option.bind_eq_some_iff.1 hc
        obtain ⟨nc, cc, -, hnc, hchildh, -⟩ := hitems.focus hchild
        rw [getAt_cons_some (by rw [child?_of_list hi, hj, Option.bind_some, hnc])]
        exact Holds.getAt_error rest (depth + 1) hchildh hget

end Focus

/-! ## Removal -/

section Removal

variable {s : Store}

theorem deleteAt_cons_cons {part r : String} {rs : List String} {n c : Node}
    (h : s.child? part n = some c) (depth : Nat) :
    s.deleteAt (part :: r :: rs) depth n = s.deleteAt (r :: rs) (depth + 1) c := by
  simp [deleteAt, h]

/-- A removal along `init ++ rest` walks `init`, then removes along `rest` from what it found. -/
theorem deleteAt_append {rest : List String} (hrest : rest ≠ []) :
    ∀ (init : List String) (depth : Nat) {n m : Node}, s.getAt init depth n = .ok m →
      s.deleteAt (init ++ rest) depth n = s.deleteAt rest (depth + init.length) m
  | [], depth, n, m, h => by
    simp only [getAt_nil, Except.ok.injEq] at h
    simp [h]
  | a :: init, depth, n, m, h => by
    cases hc : s.child? a n with
    | none => rw [getAt_cons_none hc] at h; cases h
    | some c =>
      rw [getAt_cons_some hc] at h
      obtain ⟨r, rs, hrs⟩ := List.exists_cons_of_ne_nil (by simp [hrest] : init ++ rest ≠ [])
      rw [List.cons_append, hrs, deleteAt_cons_cons hc, ← hrs, deleteAt_append hrest init (depth + 1) h]
      simp [Nat.add_assoc, Nat.add_comm 1]

/-- A removal through the store stops where a read through it stops, with the same miss. -/
theorem deleteAt_error_of_getAt :
    ∀ (path : List String) (depth : Nat) (n : Node) {m : PathMiss},
      s.getAt path depth n = .error m → s.deleteAt path depth n = .error m
  | [], _, _, _, h => by simp at h
  | [part], depth, n, m, h => by
    cases hc : s.child? part n with
    | some c => rw [getAt_cons_some hc] at h; simp at h
    | none =>
      rw [getAt_cons_none hc] at h
      cases h
      -- the read and the removal look into the same container
      rcases hcell : s.cellOf? n with _ | ⟨i, items | entries | _⟩ <;>
        simp only [child?, hcell] at hc <;> simp only [deleteAt, hcell]
      · cases hk : indexOf? part with
        | none => rfl
        | some k =>
          simp only [hk, Option.bind_some, List.getElem?_eq_none_iff] at hc
          simp [Nat.not_lt.2 hc]
      · simp [Entries.contains, hc]
  | part :: r :: rs, depth, n, m, h => by
    cases hc : s.child? part n with
    | none =>
      rw [getAt_cons_none hc] at h
      cases h
      simp [deleteAt, hc]
    | some c =>
      rw [getAt_cons_some hc] at h
      rw [deleteAt_cons_cons hc]
      exact deleteAt_error_of_getAt (r :: rs) (depth + 1) c h

/-- A removal through the store fails where the removal from the tree held fails, with the same
miss. -/
theorem Holds.deleteAt_error {path : List String} {depth : Nat} {e : Element} {n : Node}
    {cells : List Nat} {m : PathMiss} (h : Holds s e n cells)
    (hdel : Element.deleteAt path depth e = .error m) : s.deleteAt path depth n = .error m :=
  deleteAt_error_of_getAt path depth n
    (Holds.getAt_error path depth h ((Element.deleteAt_error_iff _ _ _ _).1 hdel))

/-- The children of a container other than one keep their cells when the container's own cell
is written, if that cell is not met again below; those cells are among the container's. -/
theorem others_kept_by_write {i : Nat} {rest c others others' : List Nat}
    (hperm : rest.Perm (c ++ others)) (hperm' : others'.Perm others) (hi : i ∉ rest)
    (cell : Cell) :
    (∀ j, others'.count j ≤ rest.count j) ∧
      ∀ j ∈ others', (s.write i cell).read? j = s.read? j := by
  have hsub : ∀ j, others'.count j ≤ rest.count j := fun j => by
    rw [hperm'.count_eq, hperm.count_eq, List.count_append]
    omega
  refine ⟨hsub, fun j hj => read?_write_ne s _ fun hij => hi ?_⟩
  rw [hij, ← List.count_pos_iff]
  exact Nat.lt_of_lt_of_le (List.count_pos_iff.2 hj) (hsub j)

/-- Taking a child out of a container held in the store is one write of the container's cell;
if the cell is not met again below, the cell written holds the container without the child. -/
theorem Holds.deleteAt_single {last : String} {c x c' : Element} {m : Node} {cm : List Nat}
    (h : Holds s c m cm) (hrem : Element.ChildRemoved last c x c') (depth : Nat) :
    ∃ i cell rest, m = .ref i ∧ cm = i :: rest ∧
      s.deleteAt [last] depth m = .ok (s.write i cell) ∧
      (i ∉ rest → ∃ rest', Holds (s.write i cell) c' m (i :: rest') ∧
        ∀ j, rest'.count j ≤ rest.count j) := by
  rcases hrem with ⟨entries, rfl, hl, rfl⟩ | ⟨items, j, rfl, hj, hx, rfl⟩
  · obtain ⟨i, nodes, rest, rfl, hi, hentries, rfl⟩ := h
    obtain ⟨nc, cc, oc, hnc, -, hperm, ⟨others', herase, hperm'⟩, -⟩ := hentries.focus hl
    refine ⟨i, .dict (Entries.erase last nodes), rest, rfl, rfl,
      by simp [deleteAt, hi, Entries.contains, hnc], fun hi_rest => ?_⟩
    obtain ⟨hsub, hframe⟩ :=
      others_kept_by_write hperm hperm' hi_rest (.dict (Entries.erase last nodes))
    exact ⟨others', ⟨i, _, others', rfl, read?_write_self s _ (read?_lt hi), herase.frame hframe,
      rfl⟩, hsub⟩
  · obtain ⟨i, nodes, rest, rfl, hi, hitems, rfl⟩ := h
    obtain ⟨nc, cc, oc, hnc, -, hperm, ⟨others', herase, hperm'⟩, -⟩ := hitems.focus hx
    have hlt : j < nodes.length := (List.getElem?_eq_some_iff.mp hnc).1
    refine ⟨i, .list (nodes.eraseIdx j), rest, rfl, rfl, by simp [deleteAt, hi, hj, hlt],
      fun hi_rest => ?_⟩
    obtain ⟨hsub, hframe⟩ :=
      others_kept_by_write hperm hperm' hi_rest (.list (nodes.eraseIdx j))
    exact ⟨others', ⟨i, _, others', rfl, read?_write_self s _ (read?_lt hi), herase.frame hframe,
      rfl⟩, hsub⟩

/-- A removal from a document held in the store is the removal from the tree: where the tree
loses the entry at a path, the store loses it too, by one write of the container that held it,
provided that container is met only once; the cells of the document after are among those
before, and that container is the only one changed. -/
theorem Holds.deleteAt {init : List String} {last : String} {depth : Nat} {e e' : Element}
    {n : Node} {cells : List Nat} (h : Holds s e n cells)
    (hdel : Element.deleteAt (init ++ [last]) depth e = .ok e')
    (hone : ∀ i, s.getAt init depth n = .ok (.ref i) → cells.count i ≤ 1) :
    ∃ s' cells', s.deleteAt (init ++ [last]) depth n = .ok s' ∧ Holds s' e' n cells' ∧
      (∀ j, cells'.count j ≤ cells.count j) ∧
      ∀ j, s'.read? j ≠ s.read? j → s.getAt init depth n = .ok (.ref j) := by
  have hget : ∃ x, Element.getAt (init ++ [last]) depth e = .ok x := by
    cases hg : Element.getAt (init ++ [last]) depth e with
    | ok x => exact ⟨x, rfl⟩
    | error m => rw [(Element.deleteAt_error_iff _ _ _ _).2 hg] at hdel; cases hdel
  obtain ⟨x, hx⟩ := hget
  obtain ⟨c, c', hc, hrem, hdel'⟩ := Element.deleteAt_of_getAt last init depth e x hx
  obtain ⟨m, cm, others, hm, hcm, hperm, -, hreplace⟩ := Holds.focus init depth h hc
  obtain ⟨i, cell, rest, rfl, rfl, hstep, hkeep⟩ := hcm.deleteAt_single hrem (depth + init.length)
  -- the container written is met once: not below itself, and not among the others
  have hcount : (i :: rest ++ others).count i ≤ 1 := (hperm.count_eq i) ▸ hone i hm
  simp only [List.cons_append, List.count_cons_self, List.count_append] at hcount
  have hrest : i ∉ rest := List.count_eq_zero.1 (by omega)
  have hothers : i ∉ others := List.count_eq_zero.1 (by omega)
  obtain ⟨rest', hc', hsub⟩ := hkeep hrest
  obtain ⟨e'', cells', hset, he'', hperm'⟩ :=
    hreplace (fun j hj => read?_write_ne s cell fun hij => hothers (by rw [hij]; exact hj)) hc'
  rw [hdel', hset, Except.ok.injEq] at hdel
  subst hdel
  refine ⟨s.write i cell, cells', by rw [deleteAt_append (by simp) init depth hm, hstep], he'',
    fun j => ?_, fun j hj => ?_⟩
  · rw [hperm'.count_eq, hperm.count_eq]
    simp only [List.cons_append, List.count_cons, List.count_append]
    have := hsub j
    omega
  · by_cases hji : j = i
    · rw [hji]
      exact hm
    · exact absurd (read?_write_ne s cell (Ne.symm hji)) hj

end Removal

/-! ## Writing -/

section Writing

variable {s : Store}

/-- A read through the store that finds a node is a read of the tree that finds a value. -/
theorem Holds.getAt_ok {e : Element} {n m : Node} {cells : List Nat} (h : Holds s e n cells)
    {path : List String} {depth : Nat} (hm : s.getAt path depth n = .ok m) :
    ∃ x, Element.getAt path depth e = .ok x := by
  cases hg : Element.getAt path depth e with
  | ok x => exact ⟨x, rfl⟩
  | error miss =>
    rw [Holds.getAt_error path depth h hg] at hm
    cases hm

/-- A node that refers to a container lists that container among its cells. -/
theorem Holds.mem_of_ref {e : Element} {j : Nat} {cells : List Nat}
    (h : Holds s e (.ref j) cells) : j ∈ cells := by
  cases e with
  | scalar x =>
    rcases h with ⟨h, -⟩ | ⟨i, f, hi, -, -, -, rfl⟩
    · cases h
    · cases hi
      simp
  | list items =>
    obtain ⟨i, nodes, rest, hi, -, -, rfl⟩ := h
    cases hi
    simp
  | dict entries =>
    obtain ⟨i, nodes, rest, hi, -, -, rfl⟩ := h
    cases hi
    simp

/-- A container that a read through the store finds is among the cells of the tree held. -/
theorem Holds.mem_of_getAt {e : Element} {n : Node} {cells : List Nat} (h : Holds s e n cells)
    {path : List String} {depth : Nat} {j : Nat} (hj : s.getAt path depth n = .ok (.ref j)) :
    j ∈ cells := by
  obtain ⟨x, hx⟩ := h.getAt_ok hj
  obtain ⟨m, c, others, hm, hxm, hperm, -⟩ := Holds.focus path depth h hx
  rw [hj, Except.ok.injEq] at hm
  subst hm
  exact hperm.symm.subset (List.mem_append_left _ hxm.mem_of_ref)

theorem getAt_take_succ_cons {part : String} {n c : Node} (h : s.child? part n = some c)
    (rest : List String) (depth k : Nat) :
    s.getAt ((part :: rest).take (k + 1)) depth n = s.getAt (rest.take k) (depth + 1) c := by
  rw [List.take_succ_cons, getAt_cons_some h]

/-- The store writes a value under the last part of a dictionary in place of what was there. -/
theorem setAt_single_of_dict {v : Node} {part : String} {depth : Nat} {n : Node} {i : Nat}
    {nodes : Entries Node} (h : s.cellOf? n = some (i, .dict nodes)) :
    Store.setAt v true [part] depth n s =
      .ok () (s.write i (.dict (Entries.insert part v nodes))) := by
  simp [Store.setAt, h]

theorem setAt_single_of_list {v : Node} {part : String} {depth : Nat} {n : Node} {i k : Nat}
    {nodes : List Node} (h : s.cellOf? n = some (i, .list nodes)) (hk : indexOf? part = some k)
    (hlt : k < nodes.length) :
    Store.setAt v true [part] depth n s = .ok () (s.write i (.list (nodes.set k v))) := by
  simp [Store.setAt, h, hk, hlt]

/-- Below a dictionary without the key, the store first puts a new empty dictionary there. -/
theorem setAt_cons_of_missing {v : Node} {part r : String} {rs : List String} {depth : Nat}
    {n : Node} {i : Nat} {nodes : Entries Node} (h : s.cellOf? n = some (i, .dict nodes))
    (hl : Entries.lookup part nodes = none) :
    Store.setAt v true (part :: r :: rs) depth n s =
      Store.setAt v true (r :: rs) (depth + 1) (.ref s.cells.size)
        (s.setDefault i nodes part).2 := by
  simp [Store.setAt, h, setDefault_of_lookup_none hl]

/-- A container passed on the way to a subtree, and met once in the tree, is not among the
subtree's cells. -/
theorem Holds.not_mem_of_passed {e x : Element} {n m : Node} {cells c : List Nat}
    (h : Holds s e n cells) {path : List String} {depth : Nat} (hm : s.getAt path depth n = .ok m)
    (hx : Holds s x m c) {k : Nat} (hk : k < path.length) {j : Nat}
    (hj : s.getAt (path.take k) depth n = .ok (.ref j)) (hone : cells.count j ≤ 1) : j ∉ c := by
  obtain ⟨x', hx'⟩ := h.getAt_ok hm
  obtain ⟨m', c', others, hm', hxm', hperm, hpassed, -⟩ := Holds.focus path depth h hx'
  rw [hm, Except.ok.injEq] at hm'
  subst hm'
  rw [Holds.cells_eq hx hxm']
  intro hjc
  have h₁ := hperm.count_eq j
  have h₂ := List.count_pos_iff.2 (hpassed k hk j hj)
  have h₃ := List.count_pos_iff.2 hjc
  rw [List.count_append] at h₁
  omega

/-- A write along `init ++ rest` walks `init` through children that are there, then writes
along `rest` from what it found. -/
theorem setAt_append (v : Node) {rest : List String} (hrest : rest ≠ []) :
    ∀ (init : List String) (depth : Nat) {n m : Node}, s.getAt init depth n = .ok m →
      Store.setAt v true (init ++ rest) depth n s = Store.setAt v true rest (depth + init.length) m s
  | [], depth, n, m, h => by
    simp only [getAt_nil, Except.ok.injEq] at h
    simp [h]
  | a :: init, depth, n, m, h => by
    cases hc : s.child? a n with
    | none => rw [getAt_cons_none hc] at h; cases h
    | some c =>
      rw [getAt_cons_some hc] at h
      obtain ⟨r, rs, hrs⟩ := List.exists_cons_of_ne_nil (by simp [hrest] : init ++ rest ≠ [])
      rw [List.cons_append, hrs, setAt_cons_of_child v true hc r rs depth, ← hrs,
        setAt_append v hrest init (depth + 1) h]
      simp [Nat.add_assoc, Nat.add_comm 1]

/-- A node's children are read from its own cell only. -/
theorem child?_congr {s' : Store} {i : Nat} (h : s'.read? i = s.read? i) (a : String) :
    s'.child? a (.ref i) = s.child? a (.ref i) := by
  simp [child?, h]

/-- Writing `part` into a dictionary cell keeps the entries under other keys. -/
theorem child?_write_insert {i : Nat} {nodes : Entries Node} (hi : s.read? i = some (.dict nodes))
    {a part : String} (v : Node) (hne : a ≠ part) :
    (s.write i (.dict (Entries.insert part v nodes))).child? a (.ref i) = s.child? a (.ref i) := by
  rw [child?_of_dict (read?_write_self s _ (read?_lt hi)), child?_of_dict hi,
    Entries.lookup_insert_ne _ _ hne]

/-- Writing item `k` of a list cell keeps the items at other indices. -/
theorem child?_write_set {i k : Nat} {nodes : List Node} (hi : s.read? i = some (.list nodes))
    {a part : String} (v : Node) (hk : indexOf? part = some k)
    (hne : indexOf? a = none ∨ indexOf? part = none ∨ indexOf? a ≠ indexOf? part) :
    (s.write i (.list (nodes.set k v))).child? a (.ref i) = s.child? a (.ref i) := by
  rw [child?_of_list (read?_write_self s _ (read?_lt hi)), child?_of_list hi]
  cases ha : indexOf? a with
  | none => rfl
  | some j =>
    have hjk : k ≠ j := fun hkj => by simp [ha, hk, hkj] at hne
    simp [List.getElem?_set_ne hjk]

/-- A read depends only on the containers it passes. -/
theorem getAt_congr {s' : Store} :
    ∀ (path : List String) (depth : Nat) (n : Node),
      (∀ k < path.length, ∀ j, s.getAt (path.take k) depth n = .ok (.ref j) →
        s'.read? j = s.read? j) →
      s'.getAt path depth n = s.getAt path depth n
  | [], _, _, _ => rfl
  | part :: rest, depth, n, h => by
    have hchild : s'.child? part n = s.child? part n := by
      cases n with
      | scalar _ => rfl
      | ref i => exact child?_congr (h 0 (by simp) i rfl) part
    cases hc : s.child? part n with
    | none => rw [getAt_cons_none (hchild.trans hc), getAt_cons_none hc]
    | some c =>
      rw [getAt_cons_some (hchild.trans hc), getAt_cons_some hc]
      exact getAt_congr rest (depth + 1) c fun k hk j hj =>
        h (k + 1) (by simpa using hk) j (by rw [getAt_take_succ_cons hc]; exact hj)

/-- A store that agrees on the cells of a tree reads every path below its node alike. -/
theorem Holds.getAt_frame {s' : Store} {e : Element} {n : Node} {cells : List Nat}
    (h : Holds s e n cells) (hs : ∀ j ∈ cells, s'.read? j = s.read? j) (path : List String)
    (depth : Nat) : s'.getAt path depth n = s.getAt path depth n :=
  getAt_congr path depth n fun _ _ j hj => hs j (h.mem_of_getAt hj)

/-- A node that a read through the store finds holds the subtree that the read of the tree
finds. -/
theorem Holds.holds_of_getAt {e : Element} {n m : Node} {cells : List Nat} (h : Holds s e n cells)
    {path : List String} {depth : Nat} (hm : s.getAt path depth n = .ok m) :
    ∃ x c, Element.getAt path depth e = .ok x ∧ Holds s x m c := by
  obtain ⟨x, hx⟩ := h.getAt_ok hm
  obtain ⟨m', c, -, hm', hxm, -⟩ := Holds.focus path depth h hx
  rw [hm, Except.ok.injEq] at hm'
  subst hm'
  exact ⟨x, c, hx, hxm⟩

/-- The cells of a subtree are among those of the tree, as often at most. -/
theorem Holds.count_le_of_getAt {e x : Element} {n m : Node} {cells c : List Nat}
    (h : Holds s e n cells) {path : List String} {depth : Nat} (hm : s.getAt path depth n = .ok m)
    (hx : Holds s x m c) (j : Nat) : c.count j ≤ cells.count j := by
  obtain ⟨x', hx'⟩ := h.getAt_ok hm
  obtain ⟨m', c', others, hm', hxm', hperm, -⟩ := Holds.focus path depth h hx'
  rw [hm, Except.ok.injEq] at hm'
  subst hm'
  rw [Holds.cells_eq hx hxm', hperm.count_eq, List.count_append]
  omega

/-- A container met once, first among the cells, is not met again after. -/
theorem not_mem_of_count_cons_le_one {i : Nat} {rest : List Nat} (h : (i :: rest).count i ≤ 1) :
    i ∉ rest := by
  simp only [List.count_cons_self] at h
  exact List.count_eq_zero.1 (by omega)

/-- The cells after a child of a container is replaced: the new child's cells, and those beside
it. -/
theorem count_after_child {i j : Nat} {cv rest cc oc cc' ce : List Nat}
    (hperm : rest.Perm (cc ++ oc)) (hperm' : ce.Perm (cc' ++ oc))
    (hE : cc'.count j ≤ cv.count j + cc.count j) :
    (i :: ce).count j ≤ cv.count j + (i :: rest).count j := by
  have h₁ := hperm.count_eq j
  have h₂ := hperm'.count_eq j
  simp only [List.count_append] at h₁ h₂
  simp only [List.count_cons]
  omega

/-- The last step of a write into a tree: one write of the container's cell, if the container
is met once and is not among the cells of the value. The children under parts apart from the
written one stay as they were. -/
theorem Holds.setAt_last {v : Node} {x : Element} {cv : List Nat} {e e' : Element} {n : Node}
    {cells : List Nat} {part : String} {depth : Nat} (hv : Holds s x v cv)
    (h : Holds s e n cells) (hset : Element.setAt x true [part] depth e = .ok e')
    (hroot : ∀ i, n = .ref i → cells.count i ≤ 1 ∧ i ∉ cv) :
    ∃ i cell cells', n = .ref i ∧ Store.setAt v true [part] depth n s = .ok () (s.write i cell) ∧
      Holds (s.write i cell) e' n cells' ∧
      (∀ j < s.cells.size, cells'.count j ≤ cv.count j + cells.count j) ∧
      ∀ a, a ≠ part → (indexOf? a = none ∨ indexOf? part = none ∨ indexOf? a ≠ indexOf? part) →
        (s.write i cell).child? a n = s.child? a n := by
  cases e with
  | scalar _ => simp at hset
  | dict entries =>
    obtain ⟨i, nodes, rest, rfl, hi, hentries, rfl⟩ := h
    obtain ⟨hcount, hiv⟩ := hroot i rfl
    have hrest : i ∉ rest := not_mem_of_count_cons_le_one hcount
    have hframe : ∀ j, j ≠ i → (s.write i (.dict (Entries.insert part v nodes))).read? j =
        s.read? j := fun j hj => read?_write_ne s _ (Ne.symm hj)
    have hv' := hv.frame fun j hj => hframe j fun hji => hiv (hji ▸ hj)
    simp only [Element.setAt_single_dict, Bool.true_or, if_true, Except.ok.injEq] at hset
    subst hset
    have hstore : Store.setAt v true [part] depth (.ref i) s =
        .ok () (s.write i (.dict (Entries.insert part v nodes))) :=
      setAt_single_of_dict (by simp [hi])
    cases hl : Entries.lookup part entries with
    | some old =>
      -- the key is there: its entry is replaced in place
      obtain ⟨nc, cc, oc, -, -, hperm, -, hreplace⟩ := hentries.focus hl
      obtain ⟨cells'', hce, hperm''⟩ := hreplace (fun j hj => hframe j fun hji =>
        hrest (hji ▸ hperm.symm.subset (List.mem_append_right _ hj))) hv'
      refine ⟨i, _, i :: cells'', rfl, hstore,
        ⟨i, _, cells'', rfl, read?_write_self s _ (read?_lt hi), hce, rfl⟩,
        fun j _ => count_after_child hperm hperm'' (Nat.le_add_right _ _),
        fun a ha _ => child?_write_insert hi v ha⟩
    | none =>
      -- a new key: its entry goes at the end
      have hnew := HoldsEntries.insert_new hv' (hentries.frame fun j hj =>
        hframe j fun hji => hrest (hji ▸ hj)) hl
      refine ⟨i, _, _, rfl, hstore,
        ⟨i, _, _, rfl, read?_write_self s _ (read?_lt hi), hnew, rfl⟩, fun j _ => ?_,
        fun a ha _ => child?_write_insert hi v ha⟩
      simp only [List.count_cons, List.count_append]
      omega
  | list items =>
    obtain ⟨i, nodes, rest, rfl, hi, hitems, rfl⟩ := h
    obtain ⟨hcount, hiv⟩ := hroot i rfl
    have hrest : i ∉ rest := not_mem_of_count_cons_le_one hcount
    rw [Element.setAt_cons_list] at hset
    cases hk : indexOf? part with
    | none => simp [hk] at hset
    | some k =>
      cases hc : items[k]? with
      | none => simp [hk, hc] at hset
      | some old =>
        simp only [hk, hc, Element.setAt_nil, Except.map, Except.ok.injEq] at hset
        subst hset
        obtain ⟨nc, cc, oc, hnc, -, hperm, -, hreplace⟩ := hitems.focus hc
        have hlt : k < nodes.length := (List.getElem?_eq_some_iff.mp hnc).1
        have hframe : ∀ j, j ≠ i → (s.write i (.list (nodes.set k v))).read? j = s.read? j :=
          fun j hj => read?_write_ne s _ (Ne.symm hj)
        have hv' := hv.frame fun j hj => hframe j fun hji => hiv (hji ▸ hj)
        obtain ⟨cells'', hce, hperm''⟩ := hreplace (fun j hj => hframe j fun hji =>
          hrest (hji ▸ hperm.symm.subset (List.mem_append_right _ hj))) hv'
        refine ⟨i, _, i :: cells'', rfl,
          setAt_single_of_list (show s.cellOf? (.ref i) = some (i, .list nodes) by simp [hi]) hk hlt,
          ⟨i, _, cells'', rfl, read?_write_self s _ (read?_lt hi), hce, rfl⟩,
          fun j _ => count_after_child hperm hperm'' (Nat.le_add_right _ _),
          fun a _ ha => child?_write_set hi v hk (by rw [hk]; exact ha)⟩

/-! ### Below a child -/

/-- The walk below a child passes containers that the walk from the container passes one part
later: met once in the container's cells, they are met at most once in the child's. -/
theorem pass_to_child {cv : List Nat} {part : String} {rpath : List String} {depth i : Nat}
    {nc : Node} {rest cc oc : List Nat} (hstep : s.child? part (.ref i) = some nc)
    (hperm : rest.Perm (cc ++ oc))
    (hpass : ∀ k < (part :: rpath).length, ∀ j,
      s.getAt ((part :: rpath).take k) depth (.ref i) = .ok (.ref j) →
        (i :: rest).count j ≤ 1 ∧ j ∉ cv) :
    ∀ k < rpath.length, ∀ j, s.getAt (rpath.take k) (depth + 1) nc = .ok (.ref j) →
      (i :: rest).count j ≤ 1 ∧ cc.count j ≤ 1 ∧ j ∉ cv := by
  intro k hk j hj
  obtain ⟨hcount, hcv⟩ := hpass (k + 1) (by simpa using hk) j
    (by rw [getAt_take_succ_cons hstep, hj])
  refine ⟨hcount, ?_, hcv⟩
  have h₁ := hperm.count_eq j
  simp only [List.count_append] at h₁
  simp only [List.count_cons] at hcount
  omega

/-- What a write below a child changes lies on the child's path; where each container on that
path is met once in the container's cells, the container itself and the cells beside the child
keep their contents. -/
theorem unchanged_beside_child {s' : Store} {child : Element} {nc : Node} {i : Nat}
    {rest cc oc : List Nat} {rpath : List String} {depth : Nat}
    (hperm : rest.Perm (cc ++ oc)) (hchild : Holds s child nc cc)
    (hD : ∀ j < s.cells.size, s'.read? j ≠ s.read? j →
      ∃ k < rpath.length, s.getAt (rpath.take k) depth nc = .ok (.ref j))
    (hpass : ∀ k < rpath.length, ∀ j, s.getAt (rpath.take k) depth nc = .ok (.ref j) →
      (i :: rest).count j ≤ 1) :
    ∀ j ∈ i :: oc, j < s.cells.size → s'.read? j = s.read? j := by
  intro j hj hlt
  refine Classical.byContradiction fun hne => ?_
  obtain ⟨k, hk, hget⟩ := hD j hlt hne
  have h₁ := hpass k hk j hget
  have h₂ := List.count_pos_iff.2 (hchild.mem_of_getAt hget)
  have h₃ := hperm.count_eq j
  simp only [List.count_append] at h₃
  rcases List.mem_cons.1 hj with rfl | hj
  · simp only [List.count_cons_self] at h₁
    omega
  · have := List.count_pos_iff.2 hj
    simp only [List.count_cons] at h₁
    omega

/-! ### Under a new key -/

/-- Below an empty dictionary a walk finds nothing: the only container it meets is the
dictionary itself. -/
theorem getAt_below_empty {N : Nat} (hN : s.read? N = some (.dict [])) :
    ∀ {path : List String} {depth j : Nat}, s.getAt path depth (.ref N) = .ok (.ref j) → j = N
  | [], _, _, hj => by
    simp only [getAt_nil, Except.ok.injEq, Node.ref.injEq] at hj
    exact hj.symm
  | _ :: _, _, _, hj => by
    rw [getAt_cons_none (by simp [child?, hN])] at hj
    cases hj

/-- A write under a key that dictionary `i` lacks puts a new empty dictionary under the key, in
the store `s₂`, and writes the rest of the path below it. From what that write below the new
dictionary does, the whole write: it changes no old cell but the dictionary's own, which then
holds the key, meets no old cell more often than before, and keeps every other key. -/
theorem Holds.setAt_new_key {v : Node} {child : Element} {cv : List Nat} {i : Nat}
    {nodes : Entries Node} {entries : List (String × Element)} {rest cN : List Nat}
    {part r : String} {rs : List String} {depth : Nat} {s₂ s' : Store}
    (hi : s.read? i = some (.dict nodes)) (hentries : HoldsEntries s entries nodes rest)
    (hl : Entries.lookup part entries = none) (hrest : i ∉ rest)
    (hs₂ : (s.setDefault i nodes part).2 = s₂)
    (hstore : Store.setAt v true (r :: rs) (depth + 1) (.ref s.cells.size) s₂ = .ok () s')
    (hchild : Holds s' child (.ref s.cells.size) cN) (hsize : s₂.cells.size ≤ s'.cells.size)
    (hD : ∀ j < s₂.cells.size, s'.read? j ≠ s₂.read? j →
      ∃ k < (r :: rs).length,
        s₂.getAt ((r :: rs).take k) (depth + 1) (.ref s.cells.size) = .ok (.ref j))
    (hE : ∀ j < s₂.cells.size, cN.count j ≤ cv.count j + [s.cells.size].count j) :
    Store.setAt v true (part :: r :: rs) depth (.ref i) s = .ok () s' ∧
      Holds s' (.dict (Entries.insert part child entries)) (.ref i) (i :: (rest ++ cN)) ∧
      s.cells.size ≤ s'.cells.size ∧
      (∀ j < s.cells.size, s'.read? j ≠ s.read? j → j = i) ∧
      (∀ j < s.cells.size, (i :: (rest ++ cN)).count j ≤ cv.count j + (i :: rest).count j) ∧
      ∀ a, a ≠ part → s'.child? a (.ref i) = s.child? a (.ref i) := by
  have hnl : Entries.lookup part nodes = none := hentries.lookup_eq_none hl
  have hilt := read?_lt hi
  have hcell : s.cellOf? (.ref i) = some (i, .dict nodes) := by simp [hi]
  obtain ⟨hs₂_size, hN, hs₂_i, hs₂_old⟩ := setDefault_store hi hnl
  rw [hs₂] at hs₂_size hN hs₂_i hs₂_old
  -- the write below the new dictionary passes only that dictionary, so old cells keep their
  -- contents from `s₂`
  have hkeep : ∀ j < s.cells.size, s'.read? j = s₂.read? j := fun j hj => by
    refine Classical.byContradiction fun hne => ?_
    obtain ⟨k, -, hget⟩ := hD j (by omega) hne
    have := getAt_below_empty hN hget
    omega
  have hentries' : HoldsEntries s' entries nodes rest := hentries.frame fun j hj => by
    have hj' := hentries.lt_size j hj
    rw [hkeep j hj', hs₂_old j hj' fun hji => hrest (hji ▸ hj)]
  refine ⟨by rw [setAt_cons_of_missing hcell hnl, hs₂]; exact hstore,
    ⟨i, _, rest ++ cN, rfl, by rw [hkeep i hilt, hs₂_i],
      HoldsEntries.insert_new hchild hentries' hl, rfl⟩, by omega, ?_, ?_, ?_⟩
  · intro j hj hne
    refine Classical.byContradiction fun hji => hne ?_
    rw [hkeep j hj, hs₂_old j hj hji]
  · -- the new cell is not an old one, so the counts below it are those of the value
    intro j hj
    have h₁ := hE j (by omega)
    have hjN : j ≠ s.cells.size := Nat.ne_of_lt hj
    simp only [List.count_cons, List.count_append, List.count_nil] at h₁ ⊢
    simp only [beq_iff_eq, Ne.symm hjN, if_false] at h₁
    omega
  · intro a ha
    rw [child?_of_dict (by rw [hkeep i hilt, hs₂_i]) a, child?_of_dict hi,
      Entries.lookup_insert_ne _ _ ha]

/-- A write through the store into a document that is a tree is the write into the tree. The
value written is a node holding `x` in the cells `cv`; every container the walk passes must be
met once in the document and must not be among `cv`. The store then holds the tree with `x`
written: only those containers change, and new ones are made, no older cell is met more often
than in the document and the value together, and the children under parts apart from the first
one are kept. -/
theorem Holds.setAt {v : Node} {x : Element} {cv : List Nat} :
    ∀ (path : List String) (depth : Nat) {s : Store} {e e' : Element} {n : Node}
      {cells : List Nat}, path ≠ [] → Holds s x v cv → Holds s e n cells →
      Element.setAt x true path depth e = .ok e' →
      (∀ k < path.length, ∀ i, s.getAt (path.take k) depth n = .ok (.ref i) →
        cells.count i ≤ 1 ∧ i ∉ cv) →
      ∃ s' cells', Store.setAt v true path depth n s = .ok () s' ∧ Holds s' e' n cells' ∧
        s.cells.size ≤ s'.cells.size ∧
        (∀ j < s.cells.size, s'.read? j ≠ s.read? j →
          ∃ k < path.length, s.getAt (path.take k) depth n = .ok (.ref j)) ∧
        (∀ j < s.cells.size, cells'.count j ≤ cv.count j + cells.count j) ∧
        ∀ a part, path.head? = some part → a ≠ part →
          (indexOf? a = none ∨ indexOf? part = none ∨ indexOf? a ≠ indexOf? part) →
            s'.child? a n = s.child? a n
  | [], _, _, _, _, _, _, hne, _, _, _, _ => absurd rfl hne
  | [part], depth, s, e, e', n, cells, _, hv, h, hset, hpass => by
    obtain ⟨i, cell, cells', rfl, hstore, h', hcount, hkept⟩ :=
      Holds.setAt_last hv h hset fun i hi => hpass 0 (by simp) i (by simp [hi])
    refine ⟨_, cells', hstore, h', by simp, fun j _ hj => ⟨0, by simp, ?_⟩, hcount,
      fun a part' hhead => ?_⟩
    · -- only the container's own cell was written
      by_cases hji : j = i
      · subst hji
        rfl
      · exact absurd (read?_write_ne s cell (Ne.symm hji)) hj
    · simp only [List.head?_cons, Option.some.injEq] at hhead
      subst hhead
      exact hkept a
  | part :: r :: rs, depth, s, e, e', n, cells, _, hv, h, hset, hpass => by
    cases hc : Element.getAt [part] depth e with
    | ok child =>
      -- the part is there: the write goes on below it, and the container keeps its node
      obtain ⟨i, nc, rest, cc, oc, rfl, rfl, hstep, hchild, hperm, hreplace⟩ := h.focus_child hc
      rw [← List.singleton_append, Element.setAt_append x [part] hc, List.length_singleton] at hset
      cases hin : Element.setAt x true (r :: rs) (depth + 1) child with
      | error _ => rw [hin] at hset; cases hset
      | ok child' =>
        rw [hin] at hset
        have hpass' := pass_to_child hstep hperm hpass
        obtain ⟨s', cc', hstore, hchild', hsize, hD, hE, -⟩ := Holds.setAt (r :: rs)
          (depth + 1) (by simp) hv hchild hin fun k hk j hj => (hpass' k hk j hj).2
        have hun := unchanged_beside_child hperm hchild hD fun k hk j hj => (hpass' k hk j hj).1
        have hlt : ∀ j ∈ i :: oc, j < s.cells.size := fun j hj =>
          h.lt_size j (List.cons_subset_cons i
            (List.Subset.trans (List.subset_append_right cc oc) hperm.symm.subset) hj)
        obtain ⟨e'', ce, hset', hce, hperm'⟩ := hreplace (fun j hj => hun j hj (hlt j hj)) hchild'
        obtain rfl : e'' = e' := Except.ok.inj (hset'.symm.trans hset)
        refine ⟨s', i :: ce, (setAt_cons_of_child v true hstep r rs depth).trans hstore, hce,
          hsize, fun j hj hne => ?_, fun j hj => count_after_child hperm hperm' (hE j hj),
          fun a _ _ _ _ => child?_congr (hun i List.mem_cons_self (hlt i List.mem_cons_self)) a⟩
        obtain ⟨k, hk, hget⟩ := hD j hj hne
        exact ⟨k + 1, by simpa using hk, by rw [getAt_take_succ_cons hstep]; exact hget⟩
    | error _ =>
      -- the write goes on where the read stops only at a dictionary without the key
      cases e with
      | scalar _ => simp at hset
      | list items =>
        obtain ⟨k, child, -, hk, hchild, -, -⟩ := Element.setAt_cons_list_ok hset
        simp [hk, hchild] at hc
      | dict entries =>
        have hl : Entries.lookup part entries = none := by
          cases hl : Entries.lookup part entries with
          | none => rfl
          | some _ => simp [hl] at hc
        obtain ⟨i, nodes, rest, rfl, hi, hentries, rfl⟩ := h
        obtain ⟨hcount, hiv⟩ := hpass 0 (by simp) i rfl
        simp only [Element.setAt_cons_dict] at hset
        -- a new key: a new empty dictionary is put under it, and the write goes on there
        rw [hl, Option.getD_none] at hset
        cases hin : Element.setAt x true (r :: rs) (depth + 1) (.dict []) with
        | error _ => rw [hin] at hset; cases hset
        | ok child' =>
          rw [hin] at hset
          cases hset
          obtain ⟨-, hN, -, hs₂_old⟩ := setDefault_store hi (hentries.lookup_eq_none hl)
          have hv₂ : Holds (s.setDefault i nodes part).2 x v cv := hv.frame fun j hj =>
            hs₂_old j (hv.lt_size j hj) fun hji => hiv (hji ▸ hj)
          have hempty : Holds (s.setDefault i nodes part).2 (.dict []) (.ref s.cells.size)
              [s.cells.size] := ⟨_, [], [], rfl, hN, ⟨rfl, rfl⟩, rfl⟩
          obtain ⟨s', cN, hstore, hchild', hsize, hD, hE, -⟩ :=
            Holds.setAt (r :: rs) (depth + 1) (by simp) hv₂ hempty hin fun k _ j hj => by
              rw [getAt_below_empty hN hj]
              exact ⟨by simp, fun hin => Nat.lt_irrefl _ (hv.lt_size _ hin)⟩
          obtain ⟨hstore', hholds, hsize', hwritten, hcount', hkept⟩ :=
            Holds.setAt_new_key hi hentries hl (not_mem_of_count_cons_le_one hcount) rfl hstore
              hchild' hsize hD hE
          refine ⟨s', _, hstore', hholds, hsize', fun j hj hne => ⟨0, by simp, ?_⟩, hcount',
            fun a part' hhead ha _ => ?_⟩
          · rw [hwritten j hj hne]
            rfl
          · simp only [List.head?_cons, Option.some.injEq] at hhead
            subst hhead
            exact hkept a ha

/-- A write into a tree held in the store fails where the write into the tree fails, and then
leaves the store as it was. -/
theorem Holds.setAt_error {v : Node} {x : Element} :
    ∀ (path : List String) (depth : Nat) {e : Element} {n : Node} {cells : List Nat}
      {miss : PathMiss}, Holds s e n cells → Element.setAt x true path depth e = .error miss →
        ∃ miss', Store.setAt v true path depth n s = .error miss' s
  | [], _, _, _, _, _, _, hset => by simp at hset
  | part :: rest, depth, e, n, cells, miss, h, hset => by
    cases e with
    | scalar _ =>
      -- nothing lies under a scalar, in the tree or in the store
      have he : s.entries? n = none := by
        rcases h with ⟨rfl, -⟩ | ⟨i, f, rfl, hi, -⟩
        · rfl
        · simp [entries?, hi]
      exact ⟨_, setAt_cons_of_blocked v true (h.child?_of_scalar part) he rest depth⟩
    | dict entries =>
      obtain ⟨i, nodes, cs, rfl, hi, hentries, rfl⟩ := h
      cases rest with
      | nil => simp at hset
      | cons r rs =>
        cases hl : Entries.lookup part entries with
        | none =>
          -- below a new empty dictionary the write cannot fail
          obtain ⟨c, hc⟩ := Element.setAt_empty_dict_ok x (r :: rs) (depth + 1)
          simp [hl, hc, Except.map] at hset
        | some child =>
          obtain ⟨nc, cc, -, hnc, hchild, -⟩ := hentries.focus hl
          have hstep : s.child? part (.ref i) = some nc := by rw [child?_of_dict hi, hnc]
          rw [Element.setAt_cons_dict, hl, Option.getD_some] at hset
          cases hin : Element.setAt x true (r :: rs) (depth + 1) child with
          | ok _ => rw [hin] at hset; cases hset
          | error m =>
            obtain ⟨miss', hs⟩ := Holds.setAt_error (r :: rs) (depth + 1) hchild hin
            exact ⟨miss', (setAt_cons_of_child v true hstep r rs depth).trans hs⟩
    | list items =>
      obtain ⟨i, nodes, cs, rfl, hi, hitems, rfl⟩ := h
      cases hc : (indexOf? part).bind (items[·]?) with
      | none =>
        -- no item there: the store has no node there either, and no dictionary to add it to
        exact ⟨_, setAt_cons_of_blocked v true
          (by rw [child?_of_list hi, hitems.bind_getElem?_eq_none hc]) (by simp [entries?, hi])
          rest depth⟩
      | some child =>
        obtain ⟨j, hj, hchild⟩ := Option.bind_eq_some_iff.1 hc
        obtain ⟨nc, cc, -, hnc, hchildh, -⟩ := hitems.focus hchild
        have hstep : s.child? part (.ref i) = some nc := by
          rw [child?_of_list hi, hj, Option.bind_some, hnc]
        cases rest with
        | nil => simp [hj, hchild, Except.map] at hset
        | cons r rs =>
          cases hin : Element.setAt x true (r :: rs) (depth + 1) child with
          | ok _ => simp [hj, hchild, hin, Except.map] at hset
          | error m =>
            obtain ⟨miss', hs⟩ := Holds.setAt_error (r :: rs) (depth + 1) hchildh hin
            exact ⟨miss', (setAt_cons_of_child v true hstep r rs depth).trans hs⟩

end Writing

end Store

end Ingest
