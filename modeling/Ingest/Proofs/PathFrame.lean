import Ingest.Proofs.PathLens

/-!
# Writes leave other paths alone

A write through a path changes the document only along that path: the containers it passes
through, the entry it writes, and the new empty dictionaries it makes on the way. A read
through another path, where neither path lies under the other, gives the same value after the
write as before, or fails both times.

Where the two paths part, they name different entries of one container, or different elements
of one list, and a write at one leaves the other as it was (`Element.setAt_cons_frame`). Below a
shared part both walks enter the same child, or the write makes an empty dictionary there,
which the read cannot go through either. List indices need one condition: two different parts
must not name one index, as `0` and `00` do, so the parts are taken to spell indices in plain
decimal (`FieldPath.IndicesCanonical`).

The main statement is `Element.set_preserves_disjoint_reads`.
-/

namespace Ingest

/-- Every part of `p` that reads as a list index is that index written in decimal, without
leading zeros or sign. -/
def FieldPath.IndicesCanonical (p : FieldPath) : Prop :=
  ∀ part ∈ p.parts, ∀ i, indexOf? part = some i → part = toString i

instance FieldPath.decidableIndicesCanonical (p : FieldPath) : Decidable p.IndicesCanonical :=
  decidable_of_iff (p.parts.all fun part => (indexOf? part).all fun i => part == toString i) (by
    simp only [List.all_eq_true, FieldPath.IndicesCanonical]
    refine forall₂_congr fun part _ => ?_
    cases indexOf? part <;> simp)

namespace Element

variable (v : Element) (override : Bool)

/-! ## One part of a write -/

/-- A write through a dictionary went on into the entry under the part, or into a new empty
dictionary there. -/
theorem setAt_cons_dict_ok {part r : String} {rs : List String} {depth : Nat}
    {entries : List (String × Element)} {e' : Element}
    (h : setAt v override (part :: r :: rs) depth (.dict entries) = .ok e') :
    ∃ c, setAt v override (r :: rs) (depth + 1) ((Entries.lookup part entries).getD (.dict [])) =
      .ok c ∧ e' = .dict (Entries.insert part c entries) := by
  cases hset : setAt v override (r :: rs) (depth + 1)
      ((Entries.lookup part entries).getD (.dict [])) with
  | error m => simp [hset, Except.map] at h
  | ok c =>
    simp only [setAt_cons_dict, hset, Except.map, Except.ok.injEq] at h
    exact ⟨c, rfl, h.symm⟩

/-- A write changes a container only under its first part: the entry under the key, or the
element at the index. -/
theorem setAt_cons_frame {part : String} {rest : List String} {depth : Nat} {e e' : Element}
    (h : setAt v override (part :: rest) depth e = .ok e') :
    ∃ w, (∃ entries, e = .dict entries ∧ e' = .dict (Entries.insert part w entries)) ∨
      (∃ items i, e = .list items ∧ indexOf? part = some i ∧ e' = .list (items.set i w)) := by
  cases e with
  | scalar _ => simp at h
  | list items =>
    obtain ⟨i, child, c, hi, -, -, rfl⟩ := setAt_cons_list_ok h
    exact ⟨c, .inr ⟨items, i, rfl, hi, rfl⟩⟩
  | dict entries =>
    cases rest with
    | nil =>
      simp only [setAt_single_dict] at h
      split at h
      · exact ⟨v, .inl ⟨entries, rfl, by simpa using h.symm⟩⟩
      · -- without `override` a present key keeps its value, which is binding it again
        rename_i hkeep
        obtain ⟨u, hu⟩ : ∃ u, Entries.lookup part entries = some u := by
          simp only [Bool.or_eq_true, Bool.not_eq_true', not_or, Bool.not_eq_false] at hkeep
          simpa [Entries.contains, Option.isSome_iff_exists] using hkeep.2
        refine ⟨u, .inl ⟨entries, rfl, ?_⟩⟩
        simp only [Except.ok.injEq] at h
        rw [← h, Entries.insert_of_lookup hu]
    | cons r rs =>
      obtain ⟨c, -, rfl⟩ := setAt_cons_dict_ok v override h
      exact ⟨c, .inl ⟨entries, rfl, rfl⟩⟩

/-! ## Reads beside a write -/

/-- An empty dictionary has nothing under any part. -/
theorem getAt_empty_dict {qs : List String} (h : qs ≠ []) (depth : Nat) (x : Element) :
    getAt qs depth (.dict []) ≠ .ok x := by
  obtain ⟨q, qs, rfl⟩ := List.exists_cons_of_ne_nil h
  simp

/-- A write along `ps` leaves every read along a diverging `qs` as it was: where the two part,
the write changes another entry, or another element, than the one read. Below a shared part both
walks enter the same child, or the write makes a new empty dictionary that the read cannot go
through. -/
theorem getAt_setAt_of_diverge :
    ∀ (ps qs : List String) (dp dq : Nat) (e e' x : Element),
      ps.isPrefixOf qs = false → qs.isPrefixOf ps = false →
      (∀ a ∈ ps, ∀ b ∈ qs, ∀ i, indexOf? a = some i → indexOf? b = some i → a = b) →
      setAt v override ps dp e = .ok e' →
      (getAt qs dq e' = .ok x ↔ getAt qs dq e = .ok x) := by
  intro ps
  induction ps with
  | nil => intro qs dp dq e e' x hpq; simp at hpq
  | cons a ps ih =>
    intro qs dp dq e e' x hpq hqp hidx h
    cases qs with
    | nil => simp at hqp
    | cons b qs =>
      by_cases hab : a = b
      · subst hab
        have hpq' : ps.isPrefixOf qs = false := by simpa [List.isPrefixOf] using hpq
        have hqp' : qs.isPrefixOf ps = false := by simpa [List.isPrefixOf] using hqp
        have hidx' : ∀ a ∈ ps, ∀ b ∈ qs, ∀ i, indexOf? a = some i → indexOf? b = some i → a = b :=
          fun a' ha' b' hb' => hidx a' (List.mem_cons_of_mem _ ha') b' (List.mem_cons_of_mem _ hb')
        have hps : ps ≠ [] := by rintro rfl; simp at hpq'
        have hqs : qs ≠ [] := by rintro rfl; simp at hqp'
        cases e with
        | scalar _ => simp at h
        | list items =>
          obtain ⟨i, child, c, hi, hchild, hset, rfl⟩ := setAt_cons_list_ok h
          have hlt : i < items.length := (List.getElem?_eq_some_iff.mp hchild).1
          simp only [getAt_cons_list, hi, Option.bind_some, List.getElem?_set_self hlt, hchild]
          exact ih qs (dp + 1) (dq + 1) child c x hpq' hqp' hidx' hset
        | dict entries =>
          obtain ⟨r, rs, rfl⟩ := List.exists_cons_of_ne_nil hps
          obtain ⟨c, hset, rfl⟩ := setAt_cons_dict_ok v override h
          simp only [getAt_cons_dict, Entries.lookup_insert_self]
          rw [ih qs (dp + 1) (dq + 1) _ c x hpq' hqp' hidx' hset]
          cases hl : Entries.lookup a entries with
          | some child => simp
          | none => simp [getAt_empty_dict hqs]
      · -- the paths part here: the write changes another entry than the one read
        obtain ⟨w, ⟨entries, rfl, rfl⟩ | ⟨items, i, rfl, hi, rfl⟩⟩ := setAt_cons_frame v override h
        · simp [Entries.lookup_insert_ne w entries (Ne.symm hab)]
        · cases hj : indexOf? b with
          | none => simp [hj]
          | some j =>
            have hij : i ≠ j := fun hij => hab (hidx a (by simp) b (by simp) i hi (hij ▸ hj))
            simp [hj, List.getElem?_set_ne hij]

/-- A write at `p` leaves every read at a path `q` beside it as it was: where neither path lies
under the other, `q` reads the same value after the write, or fails both before and after. Parts
are taken to spell list indices in plain decimal, so that two different parts never name one
index. -/
theorem set_preserves_disjoint_reads (p q : FieldPath) (d d' : Element)
    (hpq : p.isPrefixOf q = false) (hqp : q.isPrefixOf p = false)
    (hp : p.IndicesCanonical) (hq : q.IndicesCanonical)
    (h : set p v override d = .ok d') (x : Element) :
    Element.get q d' = .ok x ↔ Element.get q d = .ok x :=
  Element.getAt_setAt_of_diverge v override p.parts q.parts 0 0 d d' x hpq hqp
    (fun a ha b hb i hia hib => (hp a ha i hia).trans (hq b hb i hib).symm) h

/-- Writing the first item of a list keeps the second one readable, with its value. -/
theorem write_first_item_keeps_second :
    FieldPath.isPrefixOf ⟨["a", "0"], by simp, by simp [isPathPart]⟩
        ⟨["a", "1"], by simp, by simp [isPathPart]⟩ = false ∧
    FieldPath.isPrefixOf ⟨["a", "1"], by simp, by simp [isPathPart]⟩
        ⟨["a", "0"], by simp, by simp [isPathPart]⟩ = false ∧
    FieldPath.IndicesCanonical ⟨["a", "0"], by simp, by simp [isPathPart]⟩ ∧
    FieldPath.IndicesCanonical ⟨["a", "1"], by simp, by simp [isPathPart]⟩ ∧
    Element.set ⟨["a", "0"], by simp, by simp [isPathPart]⟩ (.scalar (.int 5)) true
        (.dict [("a", .list [.scalar (.int 1), .scalar (.int 2)])]) =
      .ok (.dict [("a", .list [.scalar (.int 5), .scalar (.int 2)])]) ∧
    (Element.get ⟨["a", "1"], by simp, by simp [isPathPart]⟩
        (.dict [("a", .list [.scalar (.int 5), .scalar (.int 2)])]) = .ok (.scalar (.int 2)) ↔
      Element.get ⟨["a", "1"], by simp, by simp [isPathPart]⟩
        (.dict [("a", .list [.scalar (.int 1), .scalar (.int 2)])]) = .ok (.scalar (.int 2))) :=
  ⟨by decide, by decide, by decide, by decide, rfl,
    set_preserves_disjoint_reads (.scalar (.int 5)) true
      ⟨["a", "0"], by simp, by simp [isPathPart]⟩ _ _ _ (by decide) (by decide) (by decide)
      (by decide) rfl _⟩

end Element

end Ingest
