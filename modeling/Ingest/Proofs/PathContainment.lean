import Ingest.Proofs.MinimalFields

/-!
# Containment of paths

A value lies under a path `p` (`p.contains x`) when it names a path whose parts begin with the
parts of `p`; a value that names no path lies under none. On paths this is the prefix order of
their parts (`FieldPath.isPrefixOf`): reflexive, transitive and antisymmetric.

On texts, containment is a comparison of texts: a text lies under `p` exactly when it is a path
text and is the text of `p` or continues it after a dot. A plain comparison of beginnings would
put `a.bc` under `a.b`; the dot after the text of `p` is what rules that out, and it does so
because parts have no dots: cutting a text at its dots cuts the text of `p` into the parts of
`p` (`prefix_of_render_dot`).

The main statement is `FieldPath.contains_is_prefix_order`.
-/

namespace Ingest.FieldPath

/-- A text names the path it reads as. -/
theorem ofElement_text (s : String) : ofElement (.scalar (.str s)) = parse s := rfl

/-- A value lies under `p` exactly when it names a path whose parts begin with those of `p`. -/
theorem contains_iff {p : FieldPath} {x : Element} :
    p.contains x = true ↔ ∃ q, ofElement x = .ok q ∧ p.parts <+: q.parts := by
  unfold contains
  cases ofElement x with
  | ok q => simp [isPrefixOf_iff]
  | error e => simp

/-- The text of a path below `p` is the text of `p`, or that text, a dot and more. -/
theorem render_of_prefix {p q : FieldPath} (h : p.parts <+: q.parts) :
    q.render = p.render ∨ ∃ t, q.render = p.render ++ "." ++ t := by
  obtain ⟨rest, hrest⟩ := h
  by_cases hnil : rest = []
  · -- no part beyond those of `p`: the path is `p`
    left
    have hqp : q = p := ext (by simpa [hnil] using hrest.symm)
    rw [hqp]
  · right
    refine ⟨".".intercalate rest, ?_⟩
    rw [render, ← hrest]
    exact String.intercalate_append_of_ne_nil p.nonempty hnil

/-- A path whose text is the text of `p`, a dot and more lies below `p`: its parts are the parts
of `p` followed by the pieces of the rest. -/
theorem prefix_of_render_dot {p q : FieldPath} {t : String}
    (h : q.render = p.render ++ "." ++ t) : p.parts <+: q.parts := by
  have hchars : (p.render ++ "." ++ t).toList = p.render.toList ++ '.' :: t.toList := by
    simp
  have hparts : q.parts = p.parts ++ t.splitOn "." := by
    rw [← splitOn_render q, h, splitOn_dot, hchars, List.splitOn_append_cons_self,
      List.map_append, ← splitOn_dot, splitOn_render, splitOn_dot]
  exact ⟨_, hparts.symm⟩

/-- A text lies under `p` exactly when it reads as a path and is the text of `p` or continues it
after a dot. -/
theorem contains_text_iff {p : FieldPath} {s : String} :
    p.contains (.scalar (.str s)) = true ↔
      (∃ q, parse s = .ok q) ∧ (s = p.render ∨ ∃ t, s = p.render ++ "." ++ t) := by
  rw [contains_iff, ofElement_text]
  constructor
  · rintro ⟨q, hq, hpre⟩
    have hs : q.render = s := parse_eq_ok_iff.1 hq
    exact ⟨⟨q, hq⟩, hs ▸ render_of_prefix hpre⟩
  · rintro ⟨⟨q, hq⟩, hs⟩
    have hr : q.render = s := parse_eq_ok_iff.1 hq
    refine ⟨q, hq, ?_⟩
    rcases hs with rfl | ⟨t, rfl⟩
    · -- the text of `p` reads as `p` itself
      have hqp : q = p := eq_iff_render_eq.2 hr
      subst hqp
      exact List.prefix_refl _
    · exact prefix_of_render_dot hr

/-- The text of a path lies under `p` exactly when the path does. -/
theorem contains_render (p q : FieldPath) :
    p.contains (.scalar (.str q.render)) = p.isPrefixOf q := by
  have hq : parse q.render = .ok q := parse_eq_ok_iff.2 rfl
  simp [contains, ofElement_text, hq]

/-- A value lies under a path exactly when it names a path whose parts begin with the path's
parts. For a text, that is when it reads as a path and is the path's text or continues it after
a dot; a path's own text lies under exactly the paths the path lies under, and on paths the
relation is reflexive, transitive and antisymmetric. -/
theorem contains_is_prefix_order :
    (∀ (p : FieldPath) (x : Element),
      p.contains x = true ↔ ∃ q, ofElement x = .ok q ∧ p.parts <+: q.parts) ∧
    (∀ (p : FieldPath) (s : String), p.contains (.scalar (.str s)) = true ↔
      (∃ q, parse s = .ok q) ∧ (s = p.render ∨ ∃ t, s = p.render ++ "." ++ t)) ∧
    (∀ p q : FieldPath, p.contains (.scalar (.str q.render)) = p.isPrefixOf q) ∧
    (∀ p : FieldPath, p.isPrefixOf p = true) ∧
    (∀ p q r : FieldPath, p.isPrefixOf q = true → q.isPrefixOf r = true →
      p.isPrefixOf r = true) ∧
    (∀ p q : FieldPath, p.isPrefixOf q = true → q.isPrefixOf p = true → p = q) :=
  ⟨fun _ _ => contains_iff, fun _ _ => contains_text_iff, contains_render, isPrefixOf_refl,
   fun _ _ _ => isPrefixOf_trans, fun _ _ => eq_of_isPrefixOf_of_isPrefixOf⟩

end Ingest.FieldPath
