import Ingest.Order.RunSort

/-!
# Sorting keeps to its items

Every routine of `Order.runSort` builds the arrays it returns from the arrays it is given: it
slices them, pushes their items, reverses and appends them, and puts an item in at the place a
search finds. So a property of every item of a list is a property of every item of the sorted
list (`Order.sortBy_within`), whatever the comparison answers: a sort returns only items of its
list.

Each routine is proved from the ones it calls. The merges one item at a time and the galloping
rounds call each other; each pair is proved together, by induction on the fuel, carrying the
property of the part already merged.
-/

namespace Ingest

namespace Order

variable {α ε : Type}

/-- Every item of the array has the property `P`. -/
def Within (P : α → Prop) (a : Array α) : Prop := ∀ x ∈ a, P x

section Within

variable {P : α → Prop}

@[simp] theorem within_append {a b : Array α} :
    Within P (a ++ b) ↔ Within P a ∧ Within P b := by
  simp [Within, or_imp, forall_and]

@[simp] theorem within_push {a : Array α} {x : α} : Within P (a.push x) ↔ Within P a ∧ P x := by
  simp [Within, or_imp, forall_and]

@[simp] theorem within_reverse {a : Array α} : Within P a.reverse ↔ Within P a := by
  simp [Within]

@[simp] theorem within_singleton {x : α} : Within P #[x] ↔ P x := by
  simp [Within]

theorem Within.extract {a : Array α} (h : Within P a) (i j : Nat) : Within P (a.extract i j) := by
  intro x hx
  obtain ⟨k, hk, rfl⟩ := Array.mem_extract_iff_getElem.1 hx
  exact h _ (Array.getElem_mem _)

theorem Within.slice {a : Array α} (h : Within P a) (i k : Nat) : Within P (slice a i k) :=
  h.extract i (i + k)

theorem Within.of_getElem? {a : Array α} (h : Within P a) {i : Nat} {x : α}
    (hx : a[i]? = some x) : P x :=
  h x (Array.mem_of_getElem? hx)

end Within

/-- A bind that succeeds: its first step succeeded, and the rest succeeded on that value. -/
theorem exists_of_bind_eq_ok {β γ : Type} {x : Except ε β} {f : β → Except ε γ} {r : γ}
    (h : (x >>= f) = .ok r) : ∃ v, x = .ok v ∧ f v = .ok r := by
  cases x with
  | error e => cases h
  | ok v => exact ⟨v, rfl, h⟩

section Routines

variable {P : α → Prop} (lt : α → α → Except ε Bool)

/-- Putting items into a run, each where a search finds its place. -/
theorem insertAll_within : ∀ {run : Array α} {xs : List α} {r : Array α}, Within P run →
    (∀ x ∈ xs, P x) → insertAll lt run xs = .ok r → Within P r
  | run, [], r, hrun, _, h => by
    simp only [insertAll, Except.ok.injEq] at h
    exact h ▸ hrun
  | run, x :: xs, r, hrun, hxs, h => by
    simp only [insertAll] at h
    obtain ⟨k, -, h⟩ := exists_of_bind_eq_ok h
    refine insertAll_within ?_ (fun y hy => hxs y (List.mem_cons_of_mem x hy)) h
    intro y hy
    simp only [List.mem_toArray, List.mem_append, List.mem_cons] at hy
    rcases hy with hy | rfl | hy
    · exact hrun y (Array.mem_toList_iff.1 (List.mem_of_mem_take hy))
    · exact hxs y List.mem_cons_self
    · exact hrun y (Array.mem_toList_iff.1 (List.mem_of_mem_drop hy))

/-- A merge that ends with the array `x`, every item of which has the property. -/
theorem Within.fst_of_ok {x : Array α} {m : Nat} {r : Array α × Nat} (hx : Within P x)
    (h : (.ok (x, m) : Except ε (Array α × Nat)) = .ok r) : Within P r.1 := by
  cases h
  exact hx

section Merge

variable {a b : Array α} (ha : Within P a) (hb : Within P b)
include ha hb

theorem lowCopy_within {i j : Nat} {out : Array α} {mg : Nat} {r : Array α × Nat}
    (hout : Within P out) (h : lowCopy a b i j out mg = (.ok r : Except ε (Array α × Nat))) :
    Within P r.1 :=
  Within.fst_of_ok (by simp [hout, ha.extract, hb.extract]) h

/-- A merge from the left, one item at a time or galloping, keeps to the items of its runs and
of the part merged so far. -/
theorem low_within : ∀ fuel : Nat,
    (∀ {i j : Nat} {out : Array α} {acount bcount mg : Nat} {r : Array α × Nat},
      Within P out → lowLinear lt a b fuel i j out acount bcount mg = .ok r → Within P r.1) ∧
    (∀ {i j : Nat} {out : Array α} {mg : Nat} {r : Array α × Nat},
      Within P out → lowGallop lt a b fuel i j out mg = .ok r → Within P r.1)
  | 0 => by
    refine ⟨fun hout h => ?_, fun hout h => ?_⟩
    · rw [lowLinear] at h
      exact Within.fst_of_ok (by simp [hout, ha.extract, hb.extract]) h
    · rw [lowGallop] at h
      exact Within.fst_of_ok (by simp [hout, ha.extract, hb.extract]) h
  | fuel + 1 => by
    obtain ⟨ihl, ihg⟩ := low_within fuel
    refine ⟨fun {i j out acount bcount mg r} hout h => ?_, fun {i j out mg r} hout h => ?_⟩
    · rw [lowLinear] at h
      dsimp only at h
      split at h
      · rename_i y x hy hx
        obtain ⟨c, -, h⟩ := exists_of_bind_eq_ok h
        split at h
        · -- the item of `b` goes next
          have hout' := within_push.2 ⟨hout, hb.of_getElem? hy⟩
          split at h
          · exact (within_append.2 ⟨hout', ha.extract _ _⟩).fst_of_ok h
          split at h
          · exact ihg hout' h
          · exact ihl hout' h
        · -- the item of `a` goes next
          have hout' := within_push.2 ⟨hout, ha.of_getElem? hx⟩
          split at h
          · exact lowCopy_within ha hb hout' h
          split at h
          · exact ihg hout' h
          · exact ihl hout' h
      · exact Within.fst_of_ok (by simp [hout, ha.extract, hb.extract]) h
    · rw [lowGallop] at h
      dsimp only at h
      split at h
      · exact (within_append.2 ⟨hout, ha.extract _ _⟩).fst_of_ok h
      rename_i y hy
      -- the items of `a` not after `y`
      obtain ⟨k, -, h⟩ := exists_of_bind_eq_ok h
      have hout₁ := within_append.2 ⟨hout, ha.slice i k⟩
      split at h
      · exact lowCopy_within ha hb hout₁ h
      split at h
      · exact (within_append.2 ⟨hout₁, hb.extract _ _⟩).fst_of_ok h
      have hout₂ := within_push.2 ⟨hout₁, hb.of_getElem? hy⟩
      split at h
      · exact (within_append.2 ⟨hout₂, ha.extract _ _⟩).fst_of_ok h
      split at h
      · exact (within_append.2 ⟨hout₂, hb.extract _ _⟩).fst_of_ok h
      rename_i x hx
      -- the items of `b` before `x`
      obtain ⟨k', -, h⟩ := exists_of_bind_eq_ok h
      have hout₃ := within_append.2 ⟨hout₂, hb.slice (j + 1) k'⟩
      split at h
      · exact (within_append.2 ⟨hout₃, ha.extract _ _⟩).fst_of_ok h
      have hout₄ := within_push.2 ⟨hout₃, ha.of_getElem? hx⟩
      split at h
      · exact lowCopy_within ha hb hout₄ h
      split at h
      · exact ihg hout₄ h
      · exact ihl hout₄ h

theorem mergeLow_within {mg : Nat} {r : Array α × Nat} (h : mergeLow lt a b mg = .ok r) :
    Within P r.1 := by
  rw [mergeLow] at h
  dsimp only at h
  split at h
  · exact ha.fst_of_ok h
  rename_i y hy
  have hout := within_singleton.2 (hb.of_getElem? hy)
  split at h
  · exact (within_append.2 ⟨hout, ha⟩).fst_of_ok h
  split at h
  · exact lowCopy_within ha hb hout h
  · exact (low_within lt ha hb _).1 hout h

theorem highCopy_within {na : Nat} {right : Array α} {mg : Nat} {r : Array α × Nat}
    (hright : Within P right) (h : highCopy a b na right mg = (.ok r : Except ε (Array α × Nat))) :
    Within P r.1 :=
  Within.fst_of_ok (by simp [hright, ha.slice, hb.slice]) h

/-- A merge from the right, one item at a time or galloping, keeps to the items of its runs and
of the part placed so far. -/
theorem high_within : ∀ fuel : Nat,
    (∀ {na nb : Nat} {right : Array α} {acount bcount mg : Nat} {r : Array α × Nat},
      Within P right → highLinear lt a b fuel na nb right acount bcount mg = .ok r →
        Within P r.1) ∧
    (∀ {na nb : Nat} {right : Array α} {mg : Nat} {r : Array α × Nat},
      Within P right → highGallop lt a b fuel na nb right mg = .ok r → Within P r.1)
  | 0 => by
    refine ⟨fun hright h => ?_, fun hright h => ?_⟩
    · rw [highLinear] at h
      exact Within.fst_of_ok (by simp [hright, ha.slice, hb.slice]) h
    · rw [highGallop] at h
      exact Within.fst_of_ok (by simp [hright, ha.slice, hb.slice]) h
  | fuel + 1 => by
    obtain ⟨ihl, ihg⟩ := high_within fuel
    refine ⟨fun {na nb right acount bcount mg r} hright h => ?_,
      fun {na nb right mg r} hright h => ?_⟩
    · rw [highLinear] at h
      dsimp only at h
      split at h
      · rename_i y x hy hx
        obtain ⟨c, -, h⟩ := exists_of_bind_eq_ok h
        split at h
        · -- the item of `a` is placed
          have hright' := within_push.2 ⟨hright, ha.of_getElem? hx⟩
          split at h
          · exact (within_append.2 ⟨hb.slice _ _, within_reverse.2 hright'⟩).fst_of_ok h
          split at h
          · exact ihg hright' h
          · exact ihl hright' h
        · -- the item of `b` is placed
          have hright' := within_push.2 ⟨hright, hb.of_getElem? hy⟩
          split at h
          · exact highCopy_within ha hb hright' h
          split at h
          · exact ihg hright' h
          · exact ihl hright' h
      · exact Within.fst_of_ok (by simp [hright, ha.slice, hb.slice]) h
    · rw [highGallop] at h
      dsimp only at h
      split at h
      · exact Within.fst_of_ok (by simp [hright, ha.slice]) h
      rename_i y hy
      -- the items of `a` after `y`
      obtain ⟨k, -, h⟩ := exists_of_bind_eq_ok h
      have hright₁ :=
        within_append.2 ⟨hright, within_reverse.2 (ha.slice (na - (na - k)) (na - k))⟩
      split at h
      · exact (within_append.2 ⟨hb.slice _ _, within_reverse.2 hright₁⟩).fst_of_ok h
      have hright₂ := within_push.2 ⟨hright₁, hb.of_getElem? hy⟩
      split at h
      · exact highCopy_within ha hb hright₂ h
      split at h
      · exact (within_append.2 ⟨hb.slice _ _, within_reverse.2 hright₂⟩).fst_of_ok h
      rename_i x hx
      -- the items of `b` not before `x`
      obtain ⟨k', -, h⟩ := exists_of_bind_eq_ok h
      have hright₃ := within_append.2
        ⟨hright₂, within_reverse.2 (hb.slice (nb - 1 - (nb - 1 - k')) (nb - 1 - k'))⟩
      split at h
      · exact highCopy_within ha hb hright₃ h
      split at h
      · exact (within_append.2 ⟨ha.slice _ _, within_reverse.2 hright₃⟩).fst_of_ok h
      have hright₄ := within_push.2 ⟨hright₃, ha.of_getElem? hx⟩
      split at h
      · exact (within_append.2 ⟨hb.slice _ _, within_reverse.2 hright₄⟩).fst_of_ok h
      split at h
      · exact ihg hright₄ h
      · exact ihl hright₄ h

theorem mergeHigh_within {mg : Nat} {r : Array α × Nat} (h : mergeHigh lt a b mg = .ok r) :
    Within P r.1 := by
  rw [mergeHigh] at h
  dsimp only at h
  split at h
  · exact hb.fst_of_ok h
  rename_i x hx
  have hright := within_singleton.2 (ha.of_getElem? hx)
  split at h
  · exact (within_append.2 ⟨hb, hright⟩).fst_of_ok h
  split at h
  · exact highCopy_within ha hb hright h
  · exact (high_within lt ha hb _).1 hright h

/-- Merging two neighbouring runs keeps to their items. -/
theorem mergeRuns_within {mg : Nat} {r : Array α × Nat} (h : mergeRuns lt a b mg = .ok r) :
    Within P r.1 := by
  rw [mergeRuns] at h
  dsimp only at h
  split at h
  · exact ha.fst_of_ok h
  obtain ⟨k, -, h⟩ := exists_of_bind_eq_ok h
  split at h
  · exact (within_append.2 ⟨ha, hb⟩).fst_of_ok h
  obtain ⟨nb, -, h⟩ := exists_of_bind_eq_ok h
  split at h
  · exact (within_append.2 ⟨ha, hb⟩).fst_of_ok h
  -- the middle of the runs, merged from the side of the shorter part
  split at h
  · obtain ⟨⟨merged, mg'⟩, hm, h⟩ := exists_of_bind_eq_ok h
    have hmerged := mergeLow_within lt (ha.extract _ _) (hb.slice 0 nb) hm
    exact Within.fst_of_ok (by simp [ha.slice, hmerged, hb.extract]) h
  · obtain ⟨⟨merged, mg'⟩, hm, h⟩ := exists_of_bind_eq_ok h
    have hmerged := mergeHigh_within lt (ha.extract _ _) (hb.slice 0 nb) hm
    exact Within.fst_of_ok (by simp [ha.slice, hmerged, hb.extract]) h

end Merge

/-- Every run waiting on the stack has only items with the property `P`. -/
def StackWithin (P : α → Prop) (stack : Array (Pending α)) : Prop :=
  ∀ p ∈ stack, Within P p.items

theorem StackWithin.push {stack : Array (Pending α)} (h : StackWithin P stack) {p : Pending α}
    (hp : Within P p.items) : StackWithin P (stack.push p) := by
  intro q hq
  rcases Array.mem_push.1 hq with hq | rfl
  · exact h q hq
  · exact hp

theorem StackWithin.modify {stack : Array (Pending α)} (h : StackWithin P stack)
    {f : Pending α → Pending α} (hf : ∀ p, (f p).items = p.items) (i : Nat) :
    StackWithin P (stack.modify i f) := by
  intro p hp
  obtain ⟨k, hk, rfl⟩ := Array.mem_iff_getElem.1 hp
  rw [Array.getElem_modify]
  split
  · rw [hf]
    exact h _ (Array.getElem_mem _)
  · exact h _ (Array.getElem_mem _)

/-- Runs appended one by one, in the order of the stack. -/
theorem within_foldl_items : ∀ (ps : List (Pending α)) {acc : Array α},
    (∀ p ∈ ps, Within P p.items) → Within P acc →
      Within P (ps.foldl (fun acc p => acc ++ p.items) acc)
  | [], _, _, hacc => hacc
  | p :: ps, _, hps, hacc =>
    within_foldl_items ps (fun q hq => hps q (List.mem_cons_of_mem p hq))
      (within_append.2 ⟨hacc, hps p List.mem_cons_self⟩)

theorem StackWithin.items {stack : Array (Pending α)} (h : StackWithin P stack) {acc : Array α}
    (hacc : Within P acc) : Within P (stack.foldl (fun acc p => acc ++ p.items) acc) := by
  rw [← Array.foldl_toList]
  exact within_foldl_items _ (fun p hp => h p (Array.mem_toList_iff.1 hp)) hacc

/-- Merging two runs of the stack keeps every run to the items of the runs. -/
theorem mergeAt_within {stack : Array (Pending α)} {i mg : Nat}
    {r : Array (Pending α) × Nat} (hstack : StackWithin P stack)
    (h : mergeAt lt stack i mg = .ok r) : StackWithin P r.1 := by
  rw [mergeAt] at h
  split at h
  · rename_i p q hp hq
    obtain ⟨⟨items, mg'⟩, hm, h⟩ := exists_of_bind_eq_ok h
    have hitems : Within P items :=
      mergeRuns_within lt (hstack p (Array.mem_of_getElem? hp))
        (hstack q (Array.mem_of_getElem? hq)) hm
    simp only [pure, Except.pure, Except.ok.injEq] at h
    subst h
    have hi : i + 1 < (stack.set! i { p with items }).size := by
      simpa using (Array.getElem?_eq_some_iff.1 hq).1
    intro p' hp'
    simp only [Array.eraseIdx!, hi, dite_true] at hp'
    rcases Array.mem_or_eq_of_mem_setIfInBounds (Array.mem_of_mem_eraseIdx hp') with hp' | rfl
    · exact hstack p' hp'
    · exact hitems
  · simp only [Except.ok.injEq] at h
    exact h ▸ hstack

theorem collapseAbove_within {pw : Nat} : ∀ {fuel : Nat} {stack : Array (Pending α)} {mg : Nat}
    {r : Array (Pending α) × Nat}, StackWithin P stack →
    collapseAbove lt pw fuel stack mg = .ok r → StackWithin P r.1
  | 0, stack, mg, r, hstack, h => by
    simp only [collapseAbove, Except.ok.injEq] at h
    exact h ▸ hstack
  | fuel + 1, stack, mg, r, hstack, h => by
    rw [collapseAbove] at h
    split at h
    · split at h
      · obtain ⟨⟨stack', mg'⟩, hm, h⟩ := exists_of_bind_eq_ok h
        exact collapseAbove_within (mergeAt_within lt hstack hm) h
      · simp only [Except.ok.injEq] at h
        exact h ▸ hstack
    · simp only [Except.ok.injEq] at h
      exact h ▸ hstack

theorem collapseAll_within : ∀ {fuel : Nat} {stack : Array (Pending α)} {mg : Nat}
    {r : Array (Pending α) × Nat}, StackWithin P stack →
    collapseAll lt fuel stack mg = .ok r → StackWithin P r.1
  | 0, stack, mg, r, hstack, h => by
    simp only [collapseAll, Except.ok.injEq] at h
    exact h ▸ hstack
  | fuel + 1, stack, mg, r, hstack, h => by
    rw [collapseAll] at h
    split at h
    · obtain ⟨⟨stack', mg'⟩, hm, h⟩ := exists_of_bind_eq_ok h
      exact collapseAll_within (mergeAt_within lt hstack hm) h
    · simp only [Except.ok.injEq] at h
      exact h ▸ hstack

/-- The next run keeps to the items of the list. -/
theorem nextRun_within {minimum : Nat} {xs : List α} {r : Array α × Nat} (hxs : ∀ x ∈ xs, P x)
    (h : nextRun lt minimum xs = .ok r) : Within P r.1 := by
  rw [nextRun] at h
  obtain ⟨⟨n, descending⟩, -, h⟩ := exists_of_bind_eq_ok h
  obtain ⟨run, hrun, h⟩ := exists_of_bind_eq_ok h
  simp only [pure, Except.pure, Except.ok.injEq] at h
  subst h
  refine insertAll_within lt ?_ (fun x hx => hxs x (List.mem_of_mem_drop (List.mem_of_mem_take hx)))
    hrun
  intro x hx
  have hx' : x ∈ xs.take n := by
    split at hx <;> simpa using hx
  exact hxs x (List.mem_of_mem_take hx')

theorem sortFrom_within {minimum total : Nat} : ∀ {fuel : Nat} {xs : List α} {start : Nat}
    {stack : Array (Pending α)} {mg : Nat} {r : Array α}, (∀ x ∈ xs, P x) → StackWithin P stack →
    sortFrom lt minimum total fuel xs start stack mg = .ok r → Within P r
  | 0, xs, start, stack, mg, r, _, hstack, h => by
    rw [sortFrom, Except.ok.injEq] at h
    exact h ▸ hstack.items (by simp [Within])
  | fuel + 1, [], start, stack, mg, r, _, hstack, h => by
    -- the list is used up: the stack is merged down
    rw [sortFrom] at h
    dsimp only at h
    obtain ⟨⟨stack', mg'⟩, hm, h⟩ := exists_of_bind_eq_ok h
    simp only [pure, Except.pure, Except.ok.injEq] at h
    exact h ▸ (collapseAll_within lt hstack hm).items (by simp [Within])
  | fuel + 1, x :: xs, start, stack, mg, r, hxs, hstack, h => by
    simp only [sortFrom] at h
    obtain ⟨⟨run, n⟩, hrun, h⟩ := exists_of_bind_eq_ok h
    have hrest : ∀ y ∈ (x :: xs).drop n, P y := fun y hy => hxs y (List.mem_of_mem_drop hy)
    have hrun' := nextRun_within lt hxs hrun
    -- the runs waiting before the new one, merged as its boundary calls for
    split at h
    · obtain ⟨⟨stack₁, mg₁⟩, hc, h⟩ := exists_of_bind_eq_ok h
      obtain ⟨⟨stack₂, mg₂⟩, hs, h⟩ := exists_of_bind_eq_ok h
      simp only [pure, Except.pure, Except.ok.injEq, Prod.mk.injEq] at hs
      obtain ⟨rfl, rfl⟩ := hs
      refine sortFrom_within hrest (StackWithin.push ?_ hrun') h
      -- raising the power of the top run leaves its items as they are
      dsimp only
      apply StackWithin.modify (collapseAbove_within lt hstack hc)
      intro p
      rfl
    · obtain ⟨⟨stack₂, mg₂⟩, hs, h⟩ := exists_of_bind_eq_ok h
      simp only [pure, Except.pure, Except.ok.injEq, Prod.mk.injEq] at hs
      obtain ⟨rfl, rfl⟩ := hs
      exact sortFrom_within hrest (hstack.push hrun') h

/-- A sort by runs returns only items with a property that every item of the list has. -/
theorem runSort_within {xs ys : List α} (hxs : ∀ x ∈ xs, P x) (h : runSort lt xs = .ok ys) :
    ∀ y ∈ ys, P y := by
  rw [runSort] at h
  split at h
  · simp only [pure, Except.pure, Except.ok.injEq] at h
    exact h ▸ hxs
  · obtain ⟨sorted, hs, h⟩ := exists_of_bind_eq_ok h
    simp only [pure, Except.pure, Except.ok.injEq] at h
    subst h
    have := sortFrom_within lt hxs (by simp [StackWithin]) hs
    exact fun y hy => this y (Array.mem_toList_iff.1 hy)

/-- A sort, ascending or descending, returns only items with a property that every item of the
list has, whatever the comparison answers. -/
theorem sortBy_within {descending : Bool} {xs ys : List α} (hxs : ∀ x ∈ xs, P x)
    (h : sortBy lt descending xs = .ok ys) : ∀ y ∈ ys, P y := by
  unfold sortBy at h
  cases descending with
  | false => exact runSort_within lt hxs h
  | true =>
    simp only [if_true] at h
    cases hs : runSort lt xs.reverse with
    | error e => simp [hs, Except.map] at h
    | ok zs =>
      simp only [hs, Except.map, Except.ok.injEq] at h
      subst h
      have := runSort_within lt (fun x hx => hxs x (List.mem_reverse.1 hx)) hs
      exact fun y hy => this y (List.mem_reverse.1 hy)

/-- A sort returns only items of its list. -/
theorem mem_of_sortBy {descending : Bool} {xs ys : List α} (h : sortBy lt descending xs = .ok ys)
    {y : α} (hy : y ∈ ys) : y ∈ xs :=
  sortBy_within lt (fun x (hx : x ∈ xs) => hx) h y hy

end Routines

end Order

end Ingest
