import Ingest.Pipeline.Apply

/-!
# Failures in a pipeline

A pipeline runs its processors depth first: a processor whose action fails either ignores the
failure, or runs its on-failure list on the document as the failure left it, or reports the
failure as its own. A failure that comes out of an on-failure list is not caught again by the
processor that ran the list, nor by any processor around it, and a drop passes through every
setting.

`Reaches doc ps s q t` says that the run of `ps` comes to apply `q` to the store `t`. The main
statements: a pipeline reports the failure of a processor exactly when its run reaches a
processor whose failure nothing handles, and the report carries that processor and its failure
unchanged (`run_failure_iff_reaches_unhandled`); a drop that the run reaches ends it, as a drop
(`run_drop_of_reaches`). Both rest on `Reaches.runList_error`: what a reached processor fails
with is what the whole run fails with.
-/

namespace Ingest

namespace Processor

/-! ## One processor run -/

variable {doc : Node} {s s' : Store} {p : Processor Node}

theorem runList_cons_ok (ps : List (Processor Node)) (h : p.run doc s = .ok () s') :
    runList (p :: ps) doc s = runList ps doc s' := by
  rw [runList.eq_2]
  show EStateM.bind _ _ s = _
  simp [EStateM.bind, h]

theorem runList_cons_error (ps : List (Processor Node)) {e : Error}
    (h : p.run doc s = .error e s') : runList (p :: ps) doc s = .error e s' := by
  rw [runList.eq_2]
  show EStateM.bind _ _ s = _
  simp [EStateM.bind, h]

theorem tryCatch_of_ok {x : Run Unit} {handle : Error → Run Unit} {a : Unit}
    (h : x s = .ok a s') : EStateM.tryCatch x handle s = .ok a s' := by
  delta EStateM.tryCatch
  simp only [h]

theorem tryCatch_of_error {x : Run Unit} {handle : Error → Run Unit} {e : Error}
    (h : x s = .error e s') : EStateM.tryCatch x handle s = handle e s' := by
  delta EStateM.tryCatch
  simp only [h]
  rfl

/-- A processor without a condition runs its action, and on a failure its handler. -/
theorem run_of_no_condition (hc : p.condition = none) :
    p.run doc s =
      EStateM.tryCatch (p.action.apply doc) (fun e =>
        match e with
        | .drop => throw e
        | _ =>
          if p.ignoreFailure then pure ()
          else
            match p.onFailure with
            | some qs => runList qs doc
            | none => throw (.pipelineFailure e p.action.kindName p.tag)) s := by
  obtain ⟨a, d, t, c, i, o⟩ := p
  simp only [condition] at hc
  subst hc
  rw [run.eq_1]
  rfl

theorem run_of_condition {c : Condition} (hc : p.condition = some c) :
    p.run doc s = .error .notImplemented s := by
  obtain ⟨a, d, t, c', i, o⟩ := p
  simp only [condition] at hc
  subst hc
  rw [run.eq_1]
  rfl

theorem run_of_apply_ok (hc : p.condition = none) (h : p.action.apply doc s = .ok () s') :
    p.run doc s = .ok () s' := by
  rw [run_of_no_condition hc, tryCatch_of_ok h]

theorem run_of_drop (hc : p.condition = none) (h : p.action.apply doc s = .error .drop s') :
    p.run doc s = .error .drop s' := by
  rw [run_of_no_condition hc, tryCatch_of_error h]
  rfl

/-- A failure of the action other than a drop goes to the processor's own failure handling, on
the store the failure left. -/
theorem run_of_failure {e : Error} (hc : p.condition = none)
    (h : p.action.apply doc s = .error e s') (he : e ≠ .drop) :
    p.run doc s =
      (if p.ignoreFailure then pure ()
        else
          match p.onFailure with
          | some qs => runList qs doc
          | none => throw (Error.pipelineFailure e p.action.kindName p.tag)) s' := by
  rw [run_of_no_condition hc, tryCatch_of_error h]
  split
  · exact absurd rfl he
  · rfl

theorem run_of_ignored {e : Error} (hc : p.condition = none)
    (h : p.action.apply doc s = .error e s') (he : e ≠ .drop) (hi : p.ignoreFailure = true) :
    p.run doc s = .ok () s' := by
  rw [run_of_failure hc h he, if_pos hi]
  rfl

theorem run_of_handled {e : Error} {qs : List (Processor Node)} (hc : p.condition = none)
    (h : p.action.apply doc s = .error e s') (he : e ≠ .drop) (hi : p.ignoreFailure = false)
    (ho : p.onFailure = some qs) : p.run doc s = runList qs doc s' := by
  rw [run_of_failure hc h he, if_neg (by simp [hi]), ho]

theorem run_of_unhandled {e : Error} (hc : p.condition = none)
    (h : p.action.apply doc s = .error e s') (he : e ≠ .drop) (hi : p.ignoreFailure = false)
    (ho : p.onFailure = none) :
    p.run doc s = .error (.pipelineFailure e p.action.kindName p.tag) s' := by
  rw [run_of_failure hc h he, if_neg (by simp [hi]), ho]
  rfl

/-- How a processor run can fail: its condition cannot be checked; or its action fails, with a
drop, which passes; or with any other failure that is not ignored, which goes to the on-failure
list if there is one, and is otherwise reported as the failure of this processor. -/
theorem run_error_cases {err : Error} (h : p.run doc s = .error err s') :
    (∃ c, p.condition = some c ∧ err = .notImplemented ∧ s' = s) ∨
    (p.condition = none ∧ ∃ e s₁, p.action.apply doc s = .error e s₁ ∧
      ((e = .drop ∧ err = .drop ∧ s' = s₁) ∨
       (e ≠ .drop ∧ p.ignoreFailure = false ∧
        ((∃ qs, p.onFailure = some qs ∧ runList qs doc s₁ = .error err s') ∨
         (p.onFailure = none ∧ err = .pipelineFailure e p.action.kindName p.tag ∧ s' = s₁))))) := by
  cases hc : p.condition with
  | some c =>
      rw [run_of_condition hc] at h
      cases h
      exact .inl ⟨c, rfl, rfl, rfl⟩
  | none =>
      refine .inr ⟨rfl, ?_⟩
      cases ha : p.action.apply doc s with
      | ok u s₁ =>
          rw [run_of_apply_ok hc ha] at h
          cases h
      | error e s₁ =>
          refine ⟨e, s₁, rfl, ?_⟩
          by_cases he : e = .drop
          · subst he
            rw [run_of_drop hc ha] at h
            cases h
            exact .inl ⟨rfl, rfl, rfl⟩
          · cases hi : p.ignoreFailure with
            | true =>
                rw [run_of_ignored hc ha he hi] at h
                cases h
            | false =>
                refine .inr ⟨he, rfl, ?_⟩
                cases ho : p.onFailure with
                | some qs =>
                    rw [run_of_handled hc ha he hi ho] at h
                    exact .inl ⟨qs, rfl, h⟩
                | none =>
                    rw [run_of_unhandled hc ha he hi ho] at h
                    cases h
                    exact .inr ⟨rfl, rfl, rfl⟩

/-- Running a list and then another is running them one after the other. -/
theorem runList_append (qs ps : List (Processor Node)) (doc : Node) (s : Store) :
    runList (qs ++ ps) doc s =
      match runList qs doc s with
      | .ok _ s' => runList ps doc s'
      | .error e s' => .error e s' := by
  induction qs generalizing s with
  | nil => rfl
  | cons q qs ih =>
      cases hq : q.run doc s with
      | ok u s₁ => rw [List.cons_append, runList_cons_ok _ hq, runList_cons_ok _ hq, ih]
      | error e s₁ => rw [List.cons_append, runList_cons_error _ hq, runList_cons_error _ hq]

end Processor

/-! ## Which processors the run reaches -/

/-- The depth-first run of the processors `ps` on `doc`, from store `s`, comes to apply processor
`q` to store `t`: `q` is one of them, or sits in the on-failure list of one of them, at any depth,
and everything run before it in that order has finished. -/
inductive Reaches (doc : Node) : List (Processor Node) → Store → Processor Node → Store → Prop
  /-- The first processor, without a condition, is applied to the store as it is. -/
  | head {p ps s} : p.condition = none → Reaches doc (p :: ps) s p s
  /-- Once a processor has finished, the run goes on with the next one. -/
  | tail {p ps s s₁ q t} : p.run doc s = .ok () s₁ → Reaches doc ps s₁ q t →
      Reaches doc (p :: ps) s q t
  /-- A processor whose action failed, without ignoring it, hands the document as the failure
  left it to its on-failure list. -/
  | handler {p ps qs s s₁ e q t} : p.condition = none → p.action.apply doc s = .error e s₁ →
      e ≠ .drop → p.ignoreFailure = false → p.onFailure = some qs → Reaches doc qs s₁ q t →
      Reaches doc (p :: ps) s q t

namespace Reaches

variable {doc : Node} {ps : List (Processor Node)} {s t s' : Store} {q : Processor Node}

theorem condition_eq_none (h : Reaches doc ps s q t) : q.condition = none := by
  induction h with
  | head hc => exact hc
  | tail _ _ ih => exact ih
  | handler _ _ _ _ _ _ ih => exact ih

/-- A failure of a processor the run reaches is the failure of the whole run, as it is, with the
store it left: no enclosing processor catches it, and nothing after it runs. -/
theorem runList_error {err : Error} (h : Reaches doc ps s q t) (hq : q.run doc t = .error err s') :
    Processor.runList ps doc s = .error err s' := by
  induction h with
  | head _ => exact Processor.runList_cons_error _ hq
  | tail hp _ ih => rw [Processor.runList_cons_ok _ hp, ih hq]
  | handler hc ha he hi ho _ ih =>
      exact Processor.runList_cons_error _ (by rw [Processor.run_of_handled hc ha he hi ho, ih hq])

end Reaches

/-! ## Reported failures and drops -/

variable {doc : Node} {e : Error} {kind : String} {tag : Option String}

mutual
/-- A processor whose run ends in a reported failure reaches, itself or inside its on-failure
list, the processor whose failure is reported. -/
theorem reaches_of_run_failure :
    ∀ (p : Processor Node) (ps : List (Processor Node)) (s s' : Store),
      p.run doc s = .error (.pipelineFailure e kind tag) s' →
        ∃ q t, Reaches doc (p :: ps) s q t ∧ q.action.apply doc t = .error e s' ∧
          e ≠ .drop ∧ q.ignoreFailure = false ∧ q.onFailure = none ∧
          kind = q.action.kindName ∧ tag = q.tag
  | .mk a d tg c i o, ps, s, s', h => by
    rcases Processor.run_error_cases h with
      ⟨_, _, herr, _⟩ | ⟨hc, e', s₁, ha, ⟨_, herr, _⟩ | ⟨he, hi, ⟨qs, ho, hqs⟩ | ⟨ho, herr, rfl⟩⟩⟩
    · cases herr
    · cases herr
    · -- the failure came out of the on-failure list, which reaches the failing processor
      simp only [Processor.onFailure] at ho
      subst ho
      obtain ⟨q, t, hr, rest⟩ := reaches_of_runList_failure qs s₁ s' hqs
      exact ⟨q, t, .handler hc ha he hi rfl hr, rest⟩
    · cases herr
      exact ⟨_, s, .head hc, ha, he, hi, ho, rfl, rfl⟩

/-- A run of processors that ends in a reported failure reaches the processor whose failure is
reported. -/
theorem reaches_of_runList_failure :
    ∀ (ps : List (Processor Node)) (s s' : Store),
      Processor.runList ps doc s = .error (.pipelineFailure e kind tag) s' →
        ∃ q t, Reaches doc ps s q t ∧ q.action.apply doc t = .error e s' ∧
          e ≠ .drop ∧ q.ignoreFailure = false ∧ q.onFailure = none ∧
          kind = q.action.kindName ∧ tag = q.tag
  | [], s, s', h => by cases h
  | p :: ps, s, s', h => by
    cases hp : p.run doc s with
    | ok u s₁ =>
        rw [Processor.runList_cons_ok ps hp] at h
        obtain ⟨q, t, hr, rest⟩ := reaches_of_runList_failure ps s₁ s' h
        exact ⟨q, t, .tail hp hr, rest⟩
    | error err s₁ =>
        rw [Processor.runList_cons_error ps hp] at h
        cases h
        exact reaches_of_run_failure p ps s s' hp
end

/-- A pipeline reports the failure of a processor exactly when its depth-first run reaches a
processor whose action fails, neither ignoring the failure nor handing it to an on-failure list:
the report names that processor and carries the failure of its action as it is, however deep in
on-failure lists it sits, and the document is left as that action left it. A failure that is
ignored is passed over without the on-failure list, and a failure that is handed on runs the
on-failure list on the document as the failure left it, before the next processor. -/
theorem run_failure_iff_reaches_unhandled (pl : Pipeline Node) (doc : Node) (s s' : Store)
    (e : Error) (kind : String) (tag : Option String) :
    (pl.run doc s = .error (.pipelineFailure e kind tag) s' ↔
      ∃ q t, Reaches doc pl.processors s q t ∧ q.action.apply doc t = .error e s' ∧
        e ≠ .drop ∧ q.ignoreFailure = false ∧ q.onFailure = none ∧
        kind = q.action.kindName ∧ tag = q.tag) ∧
    (∀ (q : Processor Node) (ps : List (Processor Node)) (t t' : Store) (e' : Error),
      q.condition = none → q.action.apply doc t = .error e' t' → e' ≠ .drop →
      q.ignoreFailure = true →
        Processor.runList (q :: ps) doc t = Processor.runList ps doc t') ∧
    (∀ (q : Processor Node) (ps qs : List (Processor Node)) (t t' : Store) (e' : Error),
      q.condition = none → q.action.apply doc t = .error e' t' → e' ≠ .drop →
      q.ignoreFailure = false → q.onFailure = some qs →
        Processor.runList (q :: ps) doc t = Processor.runList (qs ++ ps) doc t') := by
  refine ⟨⟨reaches_of_runList_failure pl.processors s s', ?_⟩, ?_, ?_⟩
  · rintro ⟨q, t, hr, ha, he, hi, ho, rfl, rfl⟩
    exact hr.runList_error (Processor.run_of_unhandled hr.condition_eq_none ha he hi ho)
  · intro q ps t t' e' hc ha he hi
    exact Processor.runList_cons_ok ps (Processor.run_of_ignored hc ha he hi)
  · intro q ps qs t t' e' hc ha he hi ho
    rw [Processor.runList_append]
    cases hqs : Processor.runList qs doc t' with
    | ok u s₁ =>
        exact Processor.runList_cons_ok ps ((Processor.run_of_handled hc ha he hi ho).trans hqs)
    | error err s₁ =>
        exact Processor.runList_cons_error ps ((Processor.run_of_handled hc ha he hi ho).trans hqs)

/-- A removal of kept fields, which is not implemented and so always fails, handing its failure
to a second one: the pipeline reports the second, with its tag, as it sits in the on-failure list;
set to ignore its failure, the first would be passed over, and handing the failure on runs the
list in its place. -/
theorem run_failure_in_failure_list :
    let inner : Processor Node := .mk (.keep []) none (some "inner") none false none
    let outer : Processor Node := .mk (.keep []) none none none false (some [inner])
    let quiet : Processor Node := .mk (.keep []) none none none true none
    (⟨none, [outer]⟩ : Pipeline Node).run (.scalar .null) Store.empty =
        .error (.pipelineFailure .notImplemented "KeepProcessor" (some "inner")) Store.empty ∧
      Processor.runList [quiet, inner] (.scalar .null) Store.empty =
        Processor.runList [inner] (.scalar .null) Store.empty ∧
      Processor.runList [outer] (.scalar .null) Store.empty =
        Processor.runList [inner] (.scalar .null) Store.empty := by
  intro inner outer quiet
  have hfails : ∀ p : Processor Node, p.action = .keep [] →
      p.action.apply (.scalar .null) Store.empty = .error .notImplemented Store.empty := by
    intro p hp
    rw [hp]
    rfl
  have hnotDrop : Error.notImplemented ≠ .drop := fun h => by cases h
  have hreach : Reaches (.scalar .null) [outer] Store.empty inner Store.empty :=
    .handler rfl (hfails outer rfl) hnotDrop rfl rfl (.head rfl)
  obtain ⟨⟨-, hreport⟩, hignored, hhandled⟩ :=
    run_failure_iff_reaches_unhandled ⟨none, [outer]⟩ (.scalar .null) Store.empty Store.empty
      .notImplemented "KeepProcessor" (some "inner")
  exact ⟨hreport ⟨inner, Store.empty, hreach, hfails inner rfl, hnotDrop, rfl, rfl, rfl, rfl⟩,
    hignored quiet [inner] _ _ _ rfl (hfails quiet rfl) hnotDrop rfl,
    hhandled outer [] [inner] _ _ _ rfl (hfails outer rfl) hnotDrop rfl rfl⟩

/-- A drop ends the run of a pipeline wherever the run reaches it: at any depth of on-failure
lists, whatever the processors around it do with failures, the pipeline fails with the drop
itself, and the document is left as the drop left it. -/
theorem run_drop_of_reaches {pl : Pipeline Node} {doc : Node} {s t s' : Store}
    {q : Processor Node} (hq : Reaches doc pl.processors s q t)
    (hd : q.action.apply doc t = .error .drop s') : pl.run doc s = .error .drop s' :=
  hq.runList_error (Processor.run_of_drop hq.condition_eq_none hd)

/-- A drop inside the on-failure list of a processor that always fails, itself set to ignore
failures, still ends the run with the drop. -/
theorem run_drop_in_failure_handler :
    Reaches (.scalar .null)
        [.mk (.keep []) none none none false (some [.mk .drop none none none true (some [])])]
        Store.empty (.mk .drop none none none true (some [])) Store.empty ∧
      (Processor.mk (α := Node) .drop none none none true (some [])).action.apply (.scalar .null)
        Store.empty = .error .drop Store.empty ∧
      (⟨none, [.mk (.keep []) none none none false
          (some [.mk .drop none none none true (some [])])]⟩ : Pipeline Node).run
        (.scalar .null) Store.empty = .error .drop Store.empty := by
  have hr : Reaches (.scalar .null)
      [.mk (.keep []) none none none false (some [.mk .drop none none none true (some [])])]
      Store.empty (.mk .drop none none none true (some [])) Store.empty :=
    .handler rfl rfl (fun h => by cases h) rfl rfl (.head rfl)
  exact ⟨hr, rfl, run_drop_of_reaches hr rfl⟩

end Ingest
