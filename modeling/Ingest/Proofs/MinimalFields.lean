import Ingest.Proofs.PathText
import Ingest.Pipeline.Build

/-!
# Fields reduced to the topmost ones

Keep and remove processors take a set of fields and reduce it to the fields that no other field
of the set lies above (`FieldPath.isPrefixOf`): a field below another is covered by it. Building
such a processor offers the fields one at a time to the fields kept so far (`addMinimal`), each
offer being one pass of `sweep` over a copy of them, and then sorts what is kept by text.

A pass may remove fields and only then meet a field above the one offered, and stop; the fields
it removed would then be covered by nothing kept. That never happens while the kept fields form
an antichain: a kept field above the offered one and a kept field below it would lie one above
the other. So an offer to an antichain follows the plain rule (`sweep_of_antichain`): the offered
field is dropped when a kept field lies above it, and otherwise replaces the kept fields below it.
This holds whatever order the pass takes the kept fields in. By induction over the fields offered,
the kept fields are always exactly the minimal fields of those seen so far (`Reduces`).

The main statement is `minimalFields_reduces_to_minimal`: the result is exactly the minimal fields
of the set, each once; it depends on the set alone, not on the order or repetitions of the list
that gives it; and reducing it again changes nothing.
-/

namespace Ingest

namespace FieldPath

theorem isPrefixOf_iff {p q : FieldPath} : p.isPrefixOf q = true ↔ p.parts <+: q.parts :=
  List.isPrefixOf_iff_prefix

@[simp] theorem isPrefixOf_refl (p : FieldPath) : p.isPrefixOf p = true :=
  isPrefixOf_iff.2 (List.prefix_refl _)

theorem isPrefixOf_trans {p q r : FieldPath} (hpq : p.isPrefixOf q = true)
    (hqr : q.isPrefixOf r = true) : p.isPrefixOf r = true :=
  isPrefixOf_iff.2 ((isPrefixOf_iff.1 hpq).trans (isPrefixOf_iff.1 hqr))

theorem eq_of_isPrefixOf_of_isPrefixOf {p q : FieldPath} (hpq : p.isPrefixOf q = true)
    (hqp : q.isPrefixOf p = true) : p = q :=
  ext ((isPrefixOf_iff.1 hpq).eq_of_length
    (Nat.le_antisymm (isPrefixOf_iff.1 hpq).length_le (isPrefixOf_iff.1 hqp).length_le))

/-- Fields given once each, none of which lies above another. -/
def Antichain (fields : List FieldPath) : Prop :=
  fields.Nodup ∧ ∀ p ∈ fields, ∀ q ∈ fields, p.isPrefixOf q = true → p = q

/-- `p` is a field of `fields` that lies below no other field of `fields`. -/
def IsMinimalIn (fields : List FieldPath) (p : FieldPath) : Prop :=
  p ∈ fields ∧ ∀ q ∈ fields, q.isPrefixOf p = true → q = p

/-- The fields of an antichain are minimal in it. -/
theorem Antichain.isMinimalIn {fields : List FieldPath} (h : Antichain fields) {p : FieldPath}
    (hp : p ∈ fields) : IsMinimalIn fields p :=
  ⟨hp, fun q hq hqp => h.2 q hq p hp hqp⟩

/-- Whether `p` is minimal depends on the fields given, not on their order or repetitions. -/
theorem isMinimalIn_congr {fields other : List FieldPath} (h : ∀ p, p ∈ other ↔ p ∈ fields)
    (p : FieldPath) : IsMinimalIn other p ↔ IsMinimalIn fields p := by
  simp only [IsMinimalIn, h]

end FieldPath

open FieldPath

/-! ## One offer -/

section Sweep

variable (field : FieldPath)

/-- A pass that meets no kept field above `field` removes the fields of the snapshot below
`field` and adds `field`. -/
theorem sweep_of_none_above :
    ∀ (snapshot kept : List FieldPath), kept.Nodup →
      (∀ sub ∈ snapshot, sub.isPrefixOf field = false) →
      sweep field snapshot kept =
        kept.filter (fun x => !(decide (x ∈ snapshot) && field.isPrefixOf x)) ++ [field] := by
  intro snapshot
  induction snapshot with
  | nil => intro kept _ _; simp [sweep]
  | cons sub rest ih =>
    intro kept hkept habove
    have hsub : sub.isPrefixOf field = false := habove sub (by simp)
    have hrest : ∀ s ∈ rest, s.isPrefixOf field = false := fun s hs => habove s (by simp [hs])
    by_cases hbelow : field.isPrefixOf sub = true
    · -- `sub` is removed, which on a list without repetitions is filtering it out
      rw [sweep, if_neg (by simp [hsub]), if_pos hbelow, ih _ (hkept.erase sub) hrest,
        hkept.erase_eq_filter, List.filter_filter]
      congr 1
      apply List.filter_congr
      intro x _
      by_cases hx : x = sub
      · subst hx
        simp [hbelow]
      · simp [hx]
    · rw [sweep, if_neg (by simp [hsub]), if_neg hbelow, ih _ hkept hrest]
      congr 1
      apply List.filter_congr
      intro x _
      by_cases hx : x = sub
      · subst hx
        simp [hbelow]
      · simp [hx]

/-- A pass over a snapshot of an antichain that holds a field above `field` changes nothing: it
cannot have met a field below `field` first, which would lie below the one above. -/
theorem sweep_of_some_above {kept : List FieldPath} (hkept : Antichain kept) :
    ∀ (snapshot current : List FieldPath), (∀ x ∈ snapshot, x ∈ kept) →
      (∃ sub ∈ snapshot, sub.isPrefixOf field = true) → sweep field snapshot current = current := by
  intro snapshot
  induction snapshot with
  | nil => intro _ _ h; simp at h
  | cons sub rest ih =>
    intro current hmem habove
    by_cases hsub : sub.isPrefixOf field = true
    · simp [sweep, hsub]
    · obtain ⟨top, htop, htopf⟩ : ∃ top ∈ rest, top.isPrefixOf field = true := by
        obtain ⟨top, htop, htopf⟩ := habove
        rcases List.mem_cons.1 htop with rfl | htop
        · exact absurd htopf hsub
        · exact ⟨top, htop, htopf⟩
      have hbelow : field.isPrefixOf sub = false := by
        by_contra hfs
        have heq : top = sub := hkept.2 top (hmem top (by simp [htop])) sub (hmem sub (by simp))
          (isPrefixOf_trans htopf (by simpa using hfs))
        exact hsub (heq ▸ htopf)
      rw [sweep, if_neg hsub, if_neg (by simp [hbelow])]
      exact ih current (fun x hx => hmem x (by simp [hx])) ⟨top, htop, htopf⟩

/-- Offered to an antichain, `field` is dropped when a kept field lies above it, and otherwise
replaces the kept fields below it; the pass may take the kept fields in any order. -/
theorem sweep_of_antichain {kept snapshot : List FieldPath} (hkept : Antichain kept)
    (hsnapshot : ∀ x, x ∈ snapshot ↔ x ∈ kept) :
    sweep field snapshot kept =
      if kept.any (·.isPrefixOf field) then kept
      else kept.filter (fun x => !field.isPrefixOf x) ++ [field] := by
  split
  · rename_i habove
    obtain ⟨sub, hsub, hsubf⟩ := List.any_eq_true.1 habove
    exact sweep_of_some_above field hkept snapshot kept (fun x hx => (hsnapshot x).1 hx)
      ⟨sub, (hsnapshot sub).2 hsub, hsubf⟩
  · rename_i hnone
    have hnone' : ∀ sub ∈ snapshot, sub.isPrefixOf field = false := by
      intro sub hsub
      simpa using List.any_eq_false.1 (by simpa using hnone) sub ((hsnapshot sub).1 hsub)
    rw [sweep_of_none_above field snapshot kept hkept.1 hnone']
    congr 1
    apply List.filter_congr
    intro x hx
    simp [(hsnapshot x).2 hx]

theorem addMinimal_of_antichain {kept : List FieldPath} (hkept : Antichain kept) :
    addMinimal kept field =
      if kept.any (·.isPrefixOf field) then kept
      else kept.filter (fun x => !field.isPrefixOf x) ++ [field] :=
  sweep_of_antichain field hkept fun _ => Iff.rfl

end Sweep

/-! ## Offering every field -/

/-- `kept` is the reduction of the fields `seen`: an antichain of exactly the minimal fields of
`seen`, below one of which every field of `seen` lies. -/
structure Reduces (seen kept : List FieldPath) : Prop where
  antichain : Antichain kept
  mem_iff : ∀ p, p ∈ kept ↔ IsMinimalIn seen p
  covers : ∀ q ∈ seen, ∃ p ∈ kept, p.isPrefixOf q = true

theorem Reduces.nil : Reduces [] [] :=
  ⟨⟨List.nodup_nil, by simp⟩, by simp [IsMinimalIn], by simp⟩

/-- Offering a field above which a kept field lies keeps the reduction as it is. -/
theorem Reduces.offer_covered {seen kept : List FieldPath} {field top : FieldPath}
    (h : Reduces seen kept) (htop : top ∈ kept) (htopf : top.isPrefixOf field = true) :
    Reduces (seen ++ [field]) kept := by
  refine ⟨h.antichain, fun p => ?_, fun q hq => ?_⟩
  · rw [h.mem_iff]
    simp only [IsMinimalIn, List.mem_append, List.mem_singleton, or_imp, forall_and, forall_eq]
    constructor
    · rintro ⟨hp, hmin⟩
      refine ⟨.inl hp, hmin, fun hfp => ?_⟩
      -- a kept field above `field` lies above `p` too, so it is `p`, and `p` is `field`
      have htp : top = p := h.antichain.2 top htop p ((h.mem_iff p).2 ⟨hp, hmin⟩)
        (isPrefixOf_trans htopf hfp)
      subst htp
      exact eq_of_isPrefixOf_of_isPrefixOf hfp htopf
    · rintro ⟨hp | rfl, hmin, -⟩
      · exact ⟨hp, hmin⟩
      · have htopseen := ((h.mem_iff top).1 htop).1
        have := hmin top htopseen htopf
        subst this
        exact (h.mem_iff top).1 htop
  · rcases List.mem_append.1 hq with hq | hq
    · exact h.covers q hq
    · exact ⟨top, htop, by simpa [List.mem_singleton.1 hq] using htopf⟩

/-- Offering a field above which no kept field lies puts it in place of the kept fields below
it. -/
theorem Reduces.offer_uncovered {seen kept : List FieldPath} {field : FieldPath}
    (h : Reduces seen kept) (hnone : ∀ p ∈ kept, p.isPrefixOf field = false) :
    Reduces (seen ++ [field]) (kept.filter (fun x => !field.isPrefixOf x) ++ [field]) := by
  have hnotseen : ∀ q ∈ seen, q.isPrefixOf field = false := by
    intro q hq
    by_contra hqf
    obtain ⟨p, hp, hpq⟩ := h.covers q hq
    exact absurd (isPrefixOf_trans hpq (by simpa using hqf)) (by simp [hnone p hp])
  refine ⟨⟨?_, ?_⟩, fun p => ?_, fun q hq => ?_⟩
  · refine List.nodup_append.2 ⟨h.antichain.1.filter _, by simp, ?_⟩
    intro x hx y hy hxy
    subst hxy
    simp only [List.mem_singleton] at hy
    subst hy
    simp at hx
  · simp only [List.mem_append, List.mem_filter, List.mem_singleton, Bool.not_eq_true']
    rintro p (⟨hp, hpf⟩ | rfl) q (⟨hq, hqf⟩ | rfl) hpq
    · exact h.antichain.2 p hp q hq hpq
    · exact absurd hpq (by simp [hnone p hp])
    · exact absurd hpq (by simp [hqf])
    · rfl
  · simp only [IsMinimalIn, List.mem_append, List.mem_filter, List.mem_singleton,
      Bool.not_eq_true', or_imp, forall_and, forall_eq, h.mem_iff]
    constructor
    · rintro (⟨⟨hp, hmin⟩, hfp⟩ | rfl)
      · exact ⟨.inl hp, hmin, fun hf => absurd hf (by simp [hfp])⟩
      · exact ⟨.inr rfl, fun q hq hqf => absurd hqf (by simp [hnotseen q hq]), fun _ => rfl⟩
    · rintro ⟨hp | rfl, hmin, hfp⟩
      · by_cases hf : field.isPrefixOf p = true
        · exact .inr (hfp hf).symm
        · exact .inl ⟨⟨hp, hmin⟩, by simpa using hf⟩
      · exact .inr rfl
  · simp only [List.mem_append, List.mem_filter, List.mem_singleton, Bool.not_eq_true']
    rcases List.mem_append.1 hq with hq | hq
    · obtain ⟨p, hp, hpq⟩ := h.covers q hq
      by_cases hf : field.isPrefixOf p = true
      · exact ⟨field, .inr rfl, isPrefixOf_trans hf hpq⟩
      · exact ⟨p, .inl ⟨hp, by simpa using hf⟩, hpq⟩
    · exact ⟨field, .inr rfl, by simp [List.mem_singleton.1 hq]⟩

/-- One offer keeps the reduction. -/
theorem Reduces.addMinimal {seen kept : List FieldPath} (h : Reduces seen kept)
    (field : FieldPath) : Reduces (seen ++ [field]) (addMinimal kept field) := by
  rw [addMinimal_of_antichain field h.antichain]
  split
  · rename_i habove
    obtain ⟨top, htop, htopf⟩ := List.any_eq_true.1 habove
    exact h.offer_covered htop htopf
  · rename_i hnone
    exact h.offer_uncovered fun p hp => by
      simpa using List.any_eq_false.1 (by simpa using hnone) p hp

/-- Offering the fields of a list in order, one at a time, reduces them. -/
theorem reduces_foldl_addMinimal :
    ∀ (fields seen kept : List FieldPath), Reduces seen kept →
      Reduces (seen ++ fields) (fields.foldl addMinimal kept) := by
  intro fields
  induction fields with
  | nil => intro seen kept h; simpa using h
  | cons field rest ih =>
    intro seen kept h
    simpa using ih (seen ++ [field]) (addMinimal kept field) (h.addMinimal field)

theorem reduces_minimal (fields : List FieldPath) : Reduces fields (fields.foldl addMinimal []) := by
  simpa using reduces_foldl_addMinimal fields [] [] Reduces.nil

/-! ## Sorting what is kept -/

/-- Paths ordered by their texts. -/
theorem sorted_by_text (fields : List FieldPath) :
    (fields.mergeSort fun a b => decide (a.render ≤ b.render)).Pairwise
      fun a b => decide (a.render ≤ b.render) = true :=
  List.pairwise_mergeSort
    (fun a b c hab hbc => by
      simp only [decide_eq_true_eq] at hab hbc ⊢
      exact le_trans hab hbc)
    (fun a b => by
      simp only [Bool.or_eq_true, decide_eq_true_eq]
      exact le_total a.render b.render) fields

/-- Two lists without repetitions that hold the same paths sort to the same list: texts order
paths totally. -/
theorem mergeSort_eq_of_mem_iff {fields other : List FieldPath} (hf : fields.Nodup)
    (ho : other.Nodup) (h : ∀ p, p ∈ other ↔ p ∈ fields) :
    (other.mergeSort fun a b => decide (a.render ≤ b.render)) =
      fields.mergeSort fun a b => decide (a.render ≤ b.render) := by
  have hperm : other.Perm fields := (List.perm_ext_iff_of_nodup ho hf).2 h
  refine List.Perm.eq_of_pairwise (fun a b _ _ hab hba => ?_) (sorted_by_text other)
    (sorted_by_text fields)
    (((List.mergeSort_perm _ _).trans hperm).trans (List.mergeSort_perm _ _).symm)
  exact eq_iff_render_eq.2 (le_antisymm (by simpa using hab) (by simpa using hba))

theorem mem_minimalFields {fields : List FieldPath} {p : FieldPath} :
    p ∈ minimalFields fields ↔ IsMinimalIn fields p := by
  rw [minimalFields, List.mem_mergeSort]
  exact (reduces_minimal fields).mem_iff p

theorem antichain_minimalFields (fields : List FieldPath) : Antichain (minimalFields fields) := by
  have h := (reduces_minimal fields).antichain
  refine ⟨(List.mergeSort_perm _ _).nodup_iff.2 h.1, fun p hp q hq => ?_⟩
  rw [minimalFields, List.mem_mergeSort] at hp hq
  exact h.2 p hp q hq

/-- Reducing two lists that hold the same fields gives the same result. -/
theorem minimalFields_congr {fields other : List FieldPath} (h : ∀ p, p ∈ other ↔ p ∈ fields) :
    minimalFields other = minimalFields fields := by
  apply mergeSort_eq_of_mem_iff (reduces_minimal fields).antichain.1
    (reduces_minimal other).antichain.1
  intro p
  rw [(reduces_minimal other).mem_iff, (reduces_minimal fields).mem_iff, isMinimalIn_congr h]

/-- Reducing a reduction changes nothing: its fields are already minimal, and already sorted. -/
theorem minimalFields_minimalFields (fields : List FieldPath) :
    minimalFields (minimalFields fields) = minimalFields fields := by
  have hanti := antichain_minimalFields fields
  calc minimalFields (minimalFields fields)
      = (minimalFields fields).mergeSort fun a b => decide (a.render ≤ b.render) := by
        apply mergeSort_eq_of_mem_iff hanti.1 (reduces_minimal _).antichain.1
        intro p
        rw [(reduces_minimal _).mem_iff]
        exact ⟨fun h => h.1, hanti.isMinimalIn⟩
    _ = minimalFields fields := List.mergeSort_of_pairwise (sorted_by_text _)

/-- The fields of a keep or remove processor are reduced to the minimal fields of the set given:
every field kept was given, none lies above another, every field given lies below one kept, and
the kept fields are exactly the given ones below no other given field, each once. The result
depends only on the set of fields given, not on the order of the list, and reducing it again
changes nothing. -/
theorem minimalFields_reduces_to_minimal (fields : List FieldPath) :
    (∀ p ∈ minimalFields fields, p ∈ fields) ∧
    (∀ p ∈ minimalFields fields, ∀ q ∈ minimalFields fields, p.isPrefixOf q = true → p = q) ∧
    (∀ q ∈ fields, ∃ p ∈ minimalFields fields, p.isPrefixOf q = true) ∧
    (∀ p, p ∈ minimalFields fields ↔
      p ∈ fields ∧ ∀ q ∈ fields, q.isPrefixOf p = true → q = p) ∧
    (minimalFields fields).Nodup ∧
    (∀ other : List FieldPath, (∀ p, p ∈ other ↔ p ∈ fields) →
      minimalFields other = minimalFields fields) ∧
    minimalFields (minimalFields fields) = minimalFields fields := by
  have hanti := antichain_minimalFields fields
  refine ⟨fun p hp => (mem_minimalFields.1 hp).1, hanti.2, fun q hq => ?_,
    fun p => mem_minimalFields, hanti.1, fun _ h => minimalFields_congr h,
    minimalFields_minimalFields fields⟩
  obtain ⟨p, hp, hpq⟩ := (reduces_minimal fields).covers q hq
  exact ⟨p, by rw [minimalFields, List.mem_mergeSort]; exact hp, hpq⟩

end Ingest
