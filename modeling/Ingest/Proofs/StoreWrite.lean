import Ingest.Document.Store

/-!
# A write through a path fails only where nothing has been made

`Store.set` changes containers in place as it walks: a dictionary without the next key gets a new
empty dictionary there before the walk goes on. A write that failed further down would keep those
dictionaries. It never does: below a new dictionary every key is missing again, so the rest of the
path is made and the write arrives.

So a write stops exactly where a read stops at a node that is not a dictionary (a list without the
index, or a value that is not a container), with the same part, and then the store is the one it
started from. A read that stops at a dictionary without the key is a write that succeeds.

`Stuck` names the first case: the walk of a read along the parts stops with a given miss, and the
node it had reached is not a dictionary. `setAt_error_iff` is proved by induction on the parts,
with one case per way the node meets the part: it has a child there, it is a dictionary without the
key, or it is neither.
-/

namespace Ingest

namespace Store

/-- A walk that stops, stops past the part it started from. -/
theorem getAt_error_depth (s : Store) :
    ∀ (parts : List String) (depth : Nat) (n : Node) (m : PathMiss),
      s.getAt parts depth n = .error m → depth < m.depth := by
  intro parts
  induction parts with
  | nil => intro depth n m h; simp at h
  | cons part rest ih =>
      intro depth n m h
      cases hc : s.child? part n with
      | none =>
          rw [getAt_cons_none hc] at h
          cases h
          simp
      | some c =>
          rw [getAt_cons_some hc] at h
          have := ih _ _ _ h
          omega

/-- The walk along `parts` from `n` stops with `m` at a node that is not a dictionary: a list
without the index, or a value that is not a container. -/
def Stuck (s : Store) (parts : List String) (depth : Nat) (n : Node) (m : PathMiss) : Prop :=
  s.getAt parts depth n = .error m ∧
    ∃ n', s.getAt (parts.take (m.depth - 1 - depth)) depth n = .ok n' ∧ s.entries? n' = none

theorem not_stuck_nil (s : Store) (depth : Nat) (n : Node) (m : PathMiss) :
    ¬ Stuck s [] depth n m := by
  simp [Stuck]

theorem stuck_cons_none {s : Store} {part : String} {n : Node} (h : s.child? part n = none)
    (rest : List String) (depth : Nat) (m : PathMiss) :
    Stuck s (part :: rest) depth n m ↔ m = ⟨depth + 1⟩ ∧ s.entries? n = none := by
  rw [Stuck, getAt_cons_none h]
  constructor
  · rintro ⟨hm, n', hn', he⟩
    cases hm
    simp only [Nat.add_sub_cancel, Nat.sub_self, List.take_zero, getAt_nil,
      Except.ok.injEq] at hn'
    exact ⟨rfl, hn' ▸ he⟩
  · rintro ⟨rfl, he⟩
    exact ⟨rfl, n, by simp, he⟩

theorem stuck_cons_some {s : Store} {part : String} {n c : Node} (h : s.child? part n = some c)
    (rest : List String) (depth : Nat) (m : PathMiss) :
    Stuck s (part :: rest) depth n m ↔ Stuck s rest (depth + 1) c m := by
  simp only [Stuck, getAt_cons_some h]
  refine and_congr_right fun hm => ?_
  -- the miss lies below the first part, so the prefix before it starts with that part
  have hk : m.depth - 1 - depth = (m.depth - 1 - (depth + 1)) + 1 := by
    have := s.getAt_error_depth _ _ _ _ hm
    omega
  rw [hk, List.take_succ_cons, getAt_cons_some h]

/-! ## A new dictionary under a missing key -/

section Default

variable {s : Store} {i : Nat} {entries : Entries Node} {k : String}

/-- Under a key that dictionary `i` lacks, a new empty dictionary is added at the end of the
store and bound to the key. -/
theorem setDefault_of_lookup_none (hk : Entries.lookup k entries = none) :
    s.setDefault i entries k = (.ref s.cells.size,
      (s.alloc (.dict [])).2.write i (.dict (Entries.insert k (.ref s.cells.size) entries))) := by
  simp [setDefault, hk, alloc]

/-- The store after a new dictionary is put under a missing key: one container more, the new one
empty at the end; dictionary `i` holds the key, and every other container is as it was. -/
theorem setDefault_store (hi : s.read? i = some (.dict entries))
    (hk : Entries.lookup k entries = none) :
    (s.setDefault i entries k).2.cells.size = s.cells.size + 1 ∧
      (s.setDefault i entries k).2.read? s.cells.size = some (.dict []) ∧
      (s.setDefault i entries k).2.read? i =
        some (.dict (Entries.insert k (.ref s.cells.size) entries)) ∧
      ∀ j < s.cells.size, j ≠ i → (s.setDefault i entries k).2.read? j = s.read? j := by
  have hlt := read?_lt hi
  rw [setDefault_of_lookup_none hk]
  refine ⟨by simp [write, alloc], ?_, ?_, fun j hj hji => ?_⟩
  · rw [read?_write_ne _ _ (Nat.ne_of_lt hlt), read?_alloc_self]
  · simp only [read?, write, alloc]
    exact Array.getElem?_setIfInBounds_self_of_lt (by simp; omega)
  · rw [read?_write_ne _ _ (Ne.symm hji)]
    simp [read?, alloc, Array.getElem?_push, Nat.ne_of_lt hj]

end Default

section Write

variable (v : Node) (override : Bool) {s : Store} {part : String} {n : Node}

/-- Where the node has a child under the part, a longer write goes on from the child, the store
untouched so far. -/
theorem setAt_cons_of_child {c : Node} (h : s.child? part n = some c) (r : String)
    (rs : List String) (depth : Nat) :
    setAt v override (part :: r :: rs) depth n s = setAt v override (r :: rs) (depth + 1) c s := by
  rcases hcell : s.cellOf? n with _ | ⟨i, items | entries | _⟩ <;>
    simp [child?, hcell] at h
  · simp [setAt, hcell, h]
  · simp [setAt, hcell, setDefault, h]

/-- Where the node has a child under the last part, the write succeeds. -/
theorem setAt_single_of_child {c : Node} (h : s.child? part n = some c) (depth : Nat) :
    ∃ s', setAt v override [part] depth n s = .ok () s' := by
  rcases hcell : s.cellOf? n with _ | ⟨i, items | entries | _⟩ <;>
    simp [child?, hcell] at h
  · obtain ⟨k, hk, hc⟩ := Option.bind_eq_some_iff.mp h
    have hlt : k < items.length := (List.getElem?_eq_some_iff.mp hc).1
    simp [setAt, hcell, hk, hlt]
  · by_cases ho : override || !Entries.contains part entries <;> simp [setAt, hcell, ho]

/-- At a node that has no child under the part and is not a dictionary, the write stops there
and changes nothing. -/
theorem setAt_cons_of_blocked (h : s.child? part n = none) (he : s.entries? n = none)
    (rest : List String) (depth : Nat) :
    setAt v override (part :: rest) depth n s = .error ⟨depth + 1⟩ s := by
  rcases hcell : s.cellOf? n with _ | ⟨i, items | entries | _⟩
  · cases rest <;> simp [setAt, hcell]
  · simp only [child?, hcell] at h
    cases rest with
    | nil =>
        cases hk : indexOf? part with
        | none => simp [setAt, hcell, hk]
        | some k =>
            have hge : ¬ k < items.length := by
              intro hlt
              simp [hk, hlt] at h
            simp [setAt, hcell, hk, hge]
    | cons r rs => simp [setAt, hcell, h]
  · simp [entries?, hcell] at he
  · cases rest <;> simp [setAt, hcell]

theorem cell_of_missing_key {entries : Entries Node} (h : s.child? part n = none)
    (he : s.entries? n = some entries) :
    ∃ i, s.cellOf? n = some (i, .dict entries) ∧ Entries.lookup part entries = none := by
  rcases hcell : s.cellOf? n with _ | ⟨i, items | entries' | _⟩ <;>
    simp [entries?, hcell] at he
  subst he
  exact ⟨i, rfl, by simpa [child?, hcell] using h⟩

/-- At a dictionary without the key, the write succeeds: a new empty dictionary is put under
the key, and it has no key either, so the rest of the path is made the same way. -/
theorem setAt_of_missing_key :
    ∀ (rest : List String) (part : String) (depth : Nat) (n : Node) (s : Store)
      (entries : Entries Node), s.child? part n = none → s.entries? n = some entries →
        ∃ s', setAt v override (part :: rest) depth n s = .ok () s' := by
  intro rest
  induction rest with
  | nil =>
      intro part depth n s entries h he
      obtain ⟨i, hcell, hl⟩ := cell_of_missing_key h he
      simp [setAt, hcell, Entries.contains, hl]
  | cons r rs ih =>
      intro part depth n s entries h he
      obtain ⟨i, hcell, hl⟩ := cell_of_missing_key h he
      have hi := (cellOf?_eq_some hcell).2
      -- the new dictionary sits past the end of the old store, so writing the key into
      -- container `i` leaves it empty
      obtain ⟨-, hfresh, -⟩ := setDefault_store hi hl
      obtain ⟨s', hs'⟩ := ih r (depth + 1) (.ref s.cells.size) (s.setDefault i entries part).2 []
        (by simp [child?, hfresh]) (by simp [entries?, hfresh])
      exact ⟨s', by simpa [setAt, hcell, setDefault_of_lookup_none hl] using hs'⟩

/-- A write stops exactly where the walk of a read stops at a node that is not a dictionary,
with the same part, and the store it leaves is the store it started from. -/
theorem setAt_error_iff :
    ∀ (parts : List String) (depth : Nat) (n : Node) (s : Store) (m : PathMiss) (s' : Store),
      setAt v override parts depth n s = .error m s' ↔ s' = s ∧ Stuck s parts depth n m := by
  intro parts
  induction parts with
  | nil => intro depth n s m s'; simp [setAt, not_stuck_nil]
  | cons part rest ih =>
      intro depth n s m s'
      cases hc : s.child? part n with
      | some c =>
          rw [stuck_cons_some hc]
          cases rest with
          | nil =>
              obtain ⟨s₁, hs₁⟩ := setAt_single_of_child v override hc depth
              simp [hs₁, not_stuck_nil]
          | cons r rs => rw [setAt_cons_of_child v override hc, ih]
      | none =>
          rw [stuck_cons_none hc]
          cases he : s.entries? n with
          | none =>
              rw [setAt_cons_of_blocked v override hc he]
              constructor
              · rintro ⟨⟩
                simp
              · rintro ⟨rfl, rfl, -⟩
                rfl
          | some entries =>
              obtain ⟨s₁, hs₁⟩ := setAt_of_missing_key v override rest part depth n s entries hc he
              simp [hs₁]

end Write

/-- Writing through a path fails exactly where reading fails for a reason other than a missing
dictionary key, with the same missing prefix, and a failed write leaves every container as it
was: the new dictionaries a write makes on the way are only made where nothing below can fail.
-/
theorem set_error_iff_get_stuck (p : FieldPath) (v : Node) (override : Bool) (n : Node)
    (s : Store) :
    (∀ m, (∃ s', Store.set p v override n s = .error m s') ↔
      s.get p n = .error m ∧
        ∃ n', s.getAt (p.parts.take (m.depth - 1)) 0 n = .ok n' ∧ s.entries? n' = none) ∧
    ((∃ x, s.get p n = .ok x) ∨
      (∃ m n' entries, s.get p n = .error m ∧
        s.getAt (p.parts.take (m.depth - 1)) 0 n = .ok n' ∧ s.entries? n' = some entries) →
      ∃ s', Store.set p v override n s = .ok () s') ∧
    (∀ m s', Store.set p v override n s = .error m s' → s' = s) := by
  have key := setAt_error_iff v override p.parts 0 n s
  refine ⟨fun m => ?_, fun hget => ?_, fun m s' h => ((key m s').mp h).1⟩
  · constructor
    · rintro ⟨s', h⟩
      exact ((key m s').mp h).2
    · intro hstuck
      exact ⟨s, (key m s).mpr ⟨rfl, hstuck⟩⟩
  · cases hset : Store.set p v override n s with
    | ok u s' => exact ⟨s', rfl⟩
    | error m s' =>
        obtain ⟨-, hm, n', hn', he⟩ := (key m s').mp hset
        rcases hget with ⟨x, hx⟩ | ⟨m₂, n₂, entries, hm₂, hn₂, he₂⟩
        · simp [get, hm] at hx
        · have : m₂ = m := by simp [get, hm] at hm₂; exact hm₂.symm
          subst this
          simp only [Nat.sub_zero] at hn'
          rw [hn', Except.ok.injEq] at hn₂
          simp [← hn₂, he] at he₂

end Store

end Ingest
