import Ingest.Proofs.CheckedOptions

/-!
# Converting validated definitions

`Registry.parse` checks a definition and converts its processors, in order, into processors of
this library. Besides the kinds without a processor here and a `convert` to `auto`, which are
not implemented, conversion fails at four kinds of processor (`Step.Unconvertible`): a
`community_id` processor, a processor with a condition, a date processor, and a JSON processor
that writes both into a target and at the root. Three of these failures are defects of the
conversion, not limits it documents: a `community_id` processor reads its ICMP code under a name
it does not have, a processor with a condition hands it on in a form the condition refuses, and
a date processor with keyword formats other than exactly one builds its readers under a wrong
option name. The others follow from what the library lacks or checks: every date processor
fails, since its output format is a pattern of a formatter language that has no implementation
here, and the JSON processor built refuses a target together with writing at the root.

The main statement (`parse_error_unimplemented_or_unconvertible`): on a definition validation
accepted, in which every text that conversion reads as a field path is one, conversion either
succeeds, or is not implemented, or fails at an unconvertible processor at some depth of failure
processors, with that processor's error. A lowercase processor with a condition is such a
processor (`parse_conditional_lowercase_fails`).

Conversion carries a processor's description, tag, `ignore_failure` and failure processors over
(`convert_common_settings`), except for the `convert` and `json` kinds, which build their
processor from its field options alone.

Each option a processor is built with reads by the readers of `Step.Ready`, for a processor that
validation checked and whose path texts are paths.
-/

namespace Ingest

theorem except_bind_eq_ok {α β ε : Type} {x : Except ε α} {f : α → Except ε β} {b : β} :
    x.bind f = .ok b ↔ ∃ a, x = .ok a ∧ f a = .ok b := by
  cases x <;> simp [Except.bind]

/-- What a processor built is made of: the action of its kind and the common options, each read
from the options given. -/
theorem Processor.build_eq_ok {k : ProcessorKind} {o : Options} {p : Processor Element}
    (h : Processor.build k o = .ok p) :
    readAction k o = .ok p.action ∧ o.read "description" none Setting.toText? = .ok p.description ∧
      o.read "tag" none Setting.toText? = .ok p.tag ∧
      o.read "condition" none Setting.toCondition? = .ok p.condition ∧
      o.read "ignore_failure" false Setting.toBool = .ok p.ignoreFailure ∧
      o.read "on_failure" none Setting.toProcessors? = .ok p.onFailure := by
  simp only [Processor.build, bind, except_bind_eq_ok, pure, Except.pure, Except.ok.injEq] at h
  obtain ⟨a, ha, d, hd, g, hg, c, hc, i, hi, f, hf, rfl⟩ := h
  exact ⟨ha, hd, hg, hc, hi, hf⟩

/-- A name of one character other than a dot is a path of one part. The string functions this
reads are evaluated on the name's positions, which a caller settles for a given name. -/
theorem FieldPath.parse_of_char {s : String}
    (h : String.Pos.Raw.atEnd s 0 = false ∧ String.Pos.Raw.get s 0 ≠ '.' ∧
      String.Pos.Raw.atEnd s (String.Pos.Raw.next s 0) = true ∧
      String.Pos.Raw.extract s 0 (String.Pos.Raw.next s 0) = s)
    (hp : isPathPart s = true) : ∃ p, FieldPath.parse s = .ok p := by
  obtain ⟨hend, hdot, hone, hall⟩ := h
  -- splitting on dots stops at the first position, which is the end
  have hsplit : s.splitOn "." = [s] := by
    have hsep : String.Pos.Raw.get "." 0 = '.' := by decide
    rw [String.splitOn, if_neg (by decide), String.splitOnAux, if_neg (by simp [hend]),
      if_neg (by simpa [hsep] using hdot), String.splitOnAux]
    simp [hone, hall]
  have hne : s.isEmpty = false := by
    simp only [isPathPart, Bool.and_eq_true, Bool.not_eq_eq_eq_not, Bool.not_true] at hp
    exact hp.1
  exact ⟨⟨[s], List.cons_ne_nil s [], by simp [hp]⟩,
    by simp [FieldPath.parse, hne, hsplit, FieldPath.ofParts, hp]⟩

/-- A processor built from options that hold none of the common ones has no description, tag or
failure processors, and does not ignore its failures. -/
theorem Processor.build_without_common {k : ProcessorKind} {o : Options} {p : Processor Element}
    (h : Processor.build k o = .ok p) (ho : ∀ q ∈ o, q.1 ∉ commonKeys) :
    p.description = none ∧ p.tag = none ∧ p.ignoreFailure = false ∧ p.onFailure = none := by
  have hnone : ∀ key ∈ commonKeys, Entries.lookup key o = none := fun key hkey =>
    Entries.lookup_eq_none_of_forall fun q hq heq => ho q hq (heq ▸ hkey)
  obtain ⟨-, hd, hg, -, hi, hf⟩ := build_eq_ok h
  simp only [Options.read, hnone "description" (by decide), hnone "tag" (by decide),
    hnone "ignore_failure" (by decide), hnone "on_failure" (by decide), Except.ok.injEq] at hd hg hi hf
  exact ⟨hd.symm, hg.symm, hi.symm, hf.symm⟩

namespace Setting

theorem toText?_eq_ok {v : Element} {x : Option String} (h : toText? (.value v) = .ok x) :
    x = v.toText? := by
  rcases v with ⟨_ | _ | _ | _ | t | _⟩ | _ | _ <;>
    simp [toText?, toText, Except.map, Element.toText?] at h ⊢ <;> exact h.symm

theorem toBool_eq_ok {v : Element} {b : Bool} (h : toBool (.value v) = .ok b) :
    v = .scalar (.bool b) := by
  rcases v with ⟨_ | b' | _ | _ | _ | _⟩ | _ | _ <;> simp [toBool] at h ⊢
  exact h

end Setting

namespace Elastic

namespace Step

/-! ## Processors at every depth, and the processors that cannot be converted -/

/-- `t.Occurs s`: the processor `t` is `s` or one of its failure processors, at any depth. -/
inductive Occurs : Step → Step → Prop
  | refl (s : Step) : Occurs s s
  | failure {t u : Step} {name : String} {kind : Kind} {values : List (String × Element)}
      {steps : List Step} : u ∈ steps → Occurs t u → Occurs t (.mk name kind values (some steps))

/-- `t.Unconvertible e`: converting `t` fails with `e` at `t` itself, whatever its failure
processors. -/
inductive Unconvertible : Step → Error → Prop
  /-- A date processor always fails: it writes with a pattern formatter, which has no
  implementation; keyword formats other than exactly one fail first, as their chain of readers
  is built under an option name it does not have. -/
  | date {t : Step} : t.kind = .date → Unconvertible t t.dateFailure
  /-- A JSON processor may not write both into a target and at the root. -/
  | jsonBoth {t : Step} : t.kind = .json → t.value "target_field" ≠ .scalar .null →
      t.value "add_to_root" = .scalar (.bool true) → Unconvertible t .invalid
  /-- A `community_id` processor reads its ICMP code under the name `icmp_code_field`, which it
  does not have. -/
  | communityId {t : Step} : t.kind = .communityId →
      Unconvertible t (.missingOption "ESCommunityIDProcessor" "icmp_code_field")
  /-- A condition is handed on as a positional argument, which the condition refuses. -/
  | condition {t : Step} : t.value "if" ≠ .scalar .null → Unconvertible t .conditionArgument

/-! ## Building with the common options -/

variable {t : Step}

/-- The common options a processor is built with, and its failure processors as `failure`. -/
def commonSettings (t : Step) (failure : Setting) : Options :=
  [("description", t.setting "description"), ("condition", .value (.scalar .null)),
    ("ignore_failure", t.setting "ignore_failure"), ("on_failure", failure),
    ("tag", t.setting "tag")]

/-- The common options stand in front of a kind's own, so reading one finds the common value. -/
theorem lookup_commonSettings (t : Step) (failure : Setting) (given : Options) :
    Entries.lookup "description" (t.commonSettings failure ++ given) = some (t.setting "description") ∧
      Entries.lookup "tag" (t.commonSettings failure ++ given) = some (t.setting "tag") ∧
      Entries.lookup "ignore_failure" (t.commonSettings failure ++ given) =
        some (t.setting "ignore_failure") ∧
      Entries.lookup "on_failure" (t.commonSettings failure ++ given) = some failure :=
  ⟨rfl, rfl, rfl, rfl⟩

theorem convert_eq (t : Step) :
    t.convert =
      match t.plan with
      | .done p => p
      | .build target given =>
        if !isNull (some (t.value "if")) then .error .conditionArgument
        else (convertFailure t.onFailure).bind fun failure =>
          Processor.build target (t.commonSettings failure ++ given) := by
  rcases t with ⟨name, kind, values, onFailure⟩
  rw [convert]
  cases plan (mk name kind values onFailure) with
  | done p => rfl
  | build target given =>
    dsimp only
    split <;> rfl

theorem convert_of_json (hk : t.kind = .json) :
    t.convert = Processor.build .json (t.settings ["field", "target_field", "add_to_root"]) := by
  rw [convert_eq, plan, hk]

/-- The JSON processor is built from a field, an optional target and whether to write at the
root, with no other option, and fails exactly when asked to write both into a target and at the
root. -/
theorem build_json {f : FieldPath} {o : Option FieldPath} {b : Bool}
    (hf : Setting.toPath (t.setting "field") = .ok f)
    (htarget : Setting.toPath? (t.setting "target_field") = .ok o)
    (hb : Setting.toBool (t.setting "add_to_root") = .ok b) :
    Processor.build .json (t.settings ["field", "target_field", "add_to_root"]) =
      if o.isSome && b then .error .invalid
      else .ok (.mk (.json f o b) none none none false none) := by
  cases o <;> cases b <;>
  simp [Processor.build, readAction, Options.only, Options.read, Options.require, Entries.lookup,
    settings, commonKeys, hf, htarget, hb, bind, Except.bind, pure, Except.pure, throw, throwThe,
    MonadExceptOf.throw]

end Step

namespace Step.Ready

variable {t : Step}

/-- The kind a processor is built as reads the options its plan gives it, after the common
ones: every option has the shape the reader takes and every path text is a path. -/
theorem readAction_ok (ht : t.Ready) {target : ProcessorKind} {given : Options}
    (hplan : t.plan = .build target given) (failure : Setting) :
    ∃ a, readAction target (t.commonSettings failure ++ given) = .ok a := by
  cases hk : t.kind <;> simp only [plan, hk, reduceCtorEq, Plan.build.injEq] at hplan
  case append =>
    obtain ⟨rfl, rfl⟩ := hplan
    obtain ⟨f, hf⟩ := ht.path_ok hk "field" (by decide) (by decide)
    obtain ⟨vs, hvs⟩ := toValues_asList (t.value "value")
    obtain ⟨b, hb⟩ := ht.bool_ok hk "allow_duplicates" (by decide)
    simp [readAction, Options.only, Options.read, Options.require, Entries.lookup,
      commonSettings, commonKeys, hf, hvs, hb, bind, Except.bind, pure, Except.pure]
  case bytes | lowercase | trim | uppercase | urlDecode =>
    obtain ⟨rfl, rfl⟩ := hplan
    obtain ⟨f, hf⟩ := ht.path_ok hk "field" (by decide) (by decide)
    obtain ⟨o, ho⟩ := ht.path?_ok hk "target_field" (by decide) (by decide)
    obtain ⟨b, hb⟩ := ht.bool_ok hk "ignore_missing" (by decide)
    simp [readAction, fieldAction, readFieldOptions, Options.only, Options.read, Options.require,
      Entries.lookup, commonSettings, fieldSettings, settings, commonKeys, fieldKeys, hf, ho, hb,
      bind, Except.bind, pure, Except.pure]
  case csv =>
    obtain ⟨rfl, rfl⟩ := hplan
    obtain ⟨f, hf⟩ := ht.path_ok hk "field" (by decide) (by decide)
    obtain ⟨ts, hts⟩ := ht.paths_ok hk "target_fields" (by decide) (by decide)
    obtain ⟨sep, hsep⟩ := ht.char_ok hk "separator" (by decide)
    obtain ⟨q, hq⟩ := ht.char_ok hk "quote" (by decide)
    obtain ⟨b, hb⟩ := ht.bool_ok hk "ignore_missing" (by decide)
    obtain ⟨tr, htr⟩ := ht.bool_ok hk "trim" (by decide)
    obtain ⟨ev, hev⟩ := ht.text_ok hk "empty_value" (by decide)
    simp [readAction, Options.only, Options.read, Options.require, Entries.lookup,
      commonSettings, settings, commonKeys, hf, hts, hsep, hq, hb, htr, hev, bind, Except.bind,
      pure, Except.pure]
  case remove =>
    split at hplan <;> obtain ⟨rfl, rfl⟩ := hplan
    · -- no fields kept: the fields removed are set
      rename_i hkeep
      have hfield : t.value "field" ≠ .scalar .null :=
        (ht.exclusive (a := "field") (b := "keep") (by simp [hk, Kind.exclusive])
          (by rw [hk]; decide) (by rw [hk]; decide)).not.mpr (by simpa [isNull] using hkeep)
      obtain ⟨fs, hfs⟩ := ht.paths_asList_ok hk "field" (by decide) (by decide) hfield
      obtain ⟨b, hb⟩ := ht.bool_ok hk "ignore_missing" (by decide)
      simp [readAction, Options.only, Options.read, Options.require, Entries.lookup,
        commonSettings, commonKeys, hfs, hb, bind, Except.bind, pure, Except.pure]
    · rename_i hkeep
      obtain ⟨fs, hfs⟩ := ht.paths_asList_ok hk "keep" (by decide) (by decide)
        (by simpa [isNull] using hkeep)
      simp [readAction, Options.only, Options.require, Entries.lookup, commonSettings, commonKeys,
        hfs, bind, Except.bind, pure, Except.pure]
  case set =>
    split at hplan <;> obtain ⟨rfl, rfl⟩ := hplan
    · -- no value: a copy from a field that is set
      rename_i hvalue
      have hfrom : t.value "copy_from" ≠ .scalar .null :=
        (ht.exclusive (a := "value") (b := "copy_from") (by simp [hk, Kind.exclusive])
          (by rw [hk]; decide) (by rw [hk]; decide)).mp (by simpa [isNull] using hvalue)
      obtain ⟨c, hc⟩ := ht.path_ok_of_ne_null hk "copy_from" (by decide) (by decide) hfrom
      obtain ⟨f, hf⟩ := ht.path_ok hk "field" (by decide) (by decide)
      obtain ⟨o, ho⟩ := ht.bool_ok hk "override" (by decide)
      obtain ⟨ie, hie⟩ := ht.bool_ok hk "ignore_empty_value" (by decide)
      simp [readAction, Options.only, Options.read, Options.require, Entries.lookup,
        commonSettings, commonKeys, hc, hf, ho, hie, bind, Except.bind, pure, Except.pure]
    · obtain ⟨f, hf⟩ := ht.path_ok hk "field" (by decide) (by decide)
      obtain ⟨o, ho⟩ := ht.bool_ok hk "override" (by decide)
      obtain ⟨ie, hie⟩ := ht.bool_ok hk "ignore_empty_value" (by decide)
      have hv : Setting.toValue (t.setting "value") = .ok (t.value "value") := rfl
      simp [readAction, Options.only, Options.read, Options.require, Entries.lookup,
        commonSettings, settings, commonKeys, hf, hv, ho, hie, bind, Except.bind, pure,
        Except.pure]
  case sort =>
    obtain ⟨rfl, rfl⟩ := hplan
    obtain ⟨f, hf⟩ := ht.path_ok hk "field" (by decide) (by decide)
    obtain ⟨o, ho⟩ := ht.path?_ok hk "target_field" (by decide) (by decide)
    obtain ⟨ord, hord⟩ := ht.choice_ok hk "order" [("asc", SortOrder.asc), ("desc", .desc)]
      (by decide)
    simp [readAction, fieldAction, readFieldOptions, Options.only, Options.read, Options.require,
      Entries.lookup, commonSettings, settings, commonKeys, fieldKeys, hf, ho, hord, bind,
      Except.bind, pure, Except.pure]
  case split =>
    obtain ⟨rfl, rfl⟩ := hplan
    obtain ⟨f, hf⟩ := ht.path_ok hk "field" (by decide) (by decide)
    obtain ⟨o, ho⟩ := ht.path?_ok hk "target_field" (by decide) (by decide)
    obtain ⟨sep, hsep⟩ := ht.regex_ok hk "separator" (by decide)
    obtain ⟨b, hb⟩ := ht.bool_ok hk "ignore_missing" (by decide)
    obtain ⟨pt, hpt⟩ := ht.bool_ok hk "preserve_trailing" (by decide)
    simp [readAction, fieldAction, readFieldOptions, Options.only, Options.read, Options.require,
      Entries.lookup, commonSettings, settings, commonKeys, fieldKeys, hf, ho, hsep, hb, hpt, bind,
      Except.bind, pure, Except.pure]
  case uriParts =>
    obtain ⟨rfl, rfl⟩ := hplan
    obtain ⟨f, hf⟩ := ht.path_ok hk "field" (by decide) (by decide)
    obtain ⟨o, ho⟩ := ht.path?_ok hk "target_field" (by decide) (by decide)
    obtain ⟨ko, hko⟩ := ht.bool_ok hk "keep_original" (by decide)
    obtain ⟨rs, hrs⟩ := ht.bool_ok hk "remove_if_successful" (by decide)
    obtain ⟨b, hb⟩ := ht.bool_ok hk "ignore_missing" (by decide)
    simp [readAction, fieldAction, readFieldOptions, Options.only, Options.read, Options.require,
      Entries.lookup, commonSettings, settings, commonKeys, fieldKeys, hf, ho, hko, hrs, hb, bind,
      Except.bind, pure, Except.pure]
  case userAgent =>
    obtain ⟨rfl, rfl⟩ := hplan
    obtain ⟨f, hf⟩ := ht.path_ok hk "field" (by decide) (by decide)
    obtain ⟨o, ho⟩ := ht.path?_ok_of_text hk "target_field" (by decide) (by decide)
    obtain ⟨rf, hrf⟩ := ht.text?_ok hk "regex_file" (by decide)
    obtain ⟨ps, hps⟩ := ht.texts_ok hk "properties" (by decide)
    obtain ⟨b, hb⟩ := ht.bool_ok hk "ignore_missing" (by decide)
    simp [readAction, fieldAction, readFieldOptions, Options.only, Options.read, Options.require,
      Entries.lookup, commonSettings, settings, commonKeys, fieldKeys, hf, ho, hrf, hps, hb, bind,
      Except.bind, pure, Except.pure]

/-- A processor whose plan is a build is built, once its failure processors are. -/
theorem build_ok (ht : t.Ready) {target : ProcessorKind} {given : Options}
    (hplan : t.plan = .build target given) {failure : Setting}
    (hfailure : ∃ x, Setting.toProcessors? failure = .ok x) :
    ∃ p, Processor.build target (t.commonSettings failure ++ given) = .ok p := by
  obtain ⟨a, ha⟩ := ht.readAction_ok hplan failure
  obtain ⟨hdesc, -, hignore, htag⟩ := Kind.shapesOf_common t.kind
  obtain ⟨d, hd⟩ := ht.text?_ok rfl "description" hdesc
  obtain ⟨g, hg⟩ := ht.text?_ok rfl "tag" htag
  obtain ⟨b, hb⟩ := ht.bool_ok rfl "ignore_failure" hignore
  obtain ⟨x, hx⟩ := hfailure
  simp only [Processor.build, ha]
  simp [Options.read, Entries.lookup, commonSettings, hd, hg, hb, hx, Setting.toCondition?, bind,
    Except.bind, pure, Except.pure]

/-- The conversion of a checked type other than `auto` is built. -/
theorem conversion_ok (ht : t.Ready) (hk : t.kind = .convert)
    (hauto : t.value "type" ≠ .scalar (.str "auto")) : ∃ p, t.conversion = .ok p := by
  have htype : t.kind.shapesOf "type" = some [.word ["integer", "long", "float", "double",
      "string", "boolean", "ip", "auto"]] := by
    rw [hk]; decide
  obtain ⟨ty, hty, hmem⟩ := Shape.fits_word (ht.fits htype)
  obtain ⟨f, hf⟩ := ht.path_ok hk "field" (by decide) (by decide)
  obtain ⟨o, ho⟩ := ht.path?_ok hk "target_field" (by decide) (by decide)
  obtain ⟨b, hb⟩ := ht.bool_ok hk "ignore_missing" (by decide)
  have hne : ty ≠ "auto" := fun h => hauto (h ▸ hty)
  simp only [List.mem_cons, List.not_mem_nil, or_false, hne] at hmem
  -- each of the seven other types builds its processor from the field options
  rcases hmem with rfl | rfl | rfl | rfl | rfl | rfl | rfl <;>
  simp [conversion, hty, integerBounds, Processor.build, readAction, fieldAction,
    readFieldOptions, Options.only, Options.read, Options.require, Entries.lookup, fieldSettings,
    settings, commonKeys, fieldKeys, hf, ho, hb, Setting.toInt?, Setting.toInt, Setting.toChoice,
    Element.toInt?, List.lookup_cons, bind, Except.bind, pure, Except.pure, Except.map]

/-- A conversion of a checked type fails only for `auto`, which has none. -/
theorem conversion_error (ht : t.Ready) (hk : t.kind = .convert) {e : Error}
    (h : t.conversion = .error e) : e = .notImplemented := by
  by_cases hauto : t.value "type" = .scalar (.str "auto")
  · simp [conversion, hauto, integerBounds] at h
    exact h.symm
  · obtain ⟨p, hp⟩ := ht.conversion_ok hk hauto
    rw [hp] at h
    cases h

/-- The JSON processor built from a checked processor fails only when it is asked to write both
into a target and at the root. -/
theorem json_error (ht : t.Ready) (hk : t.kind = .json) {e : Error}
    (h : Processor.build .json (t.settings ["field", "target_field", "add_to_root"]) = .error e) :
    t.Unconvertible e := by
  have hshapes : t.kind.shapesOf "add_to_root" = some [.flag] ∧
      t.kind.shapesOf "target_field" = some [.text, .nothing] := by
    rw [hk]; decide
  obtain ⟨f, hf⟩ := ht.path_ok hk "field" (by decide) (by decide)
  obtain ⟨b, hb⟩ := Shape.fits_flag (ht.fits hshapes.1)
  have hroot : Setting.toBool (t.setting "add_to_root") = .ok b := by
    rw [setting, hb]; rfl
  rcases Shape.fits_text_or_null (ht.fits hshapes.2) with hnull | ⟨x, hx⟩
  · -- no target: the processor is built
    have htarget : Setting.toPath? (t.setting "target_field") = .ok none := by
      rw [setting, hnull]; rfl
    simp [build_json hf htarget hroot] at h
  · -- a target: the processor is built unless it also writes at the root
    obtain ⟨p, hp⟩ := Setting.toPath_ok (v := t.value "target_field") (by rw [hx]; rfl)
      (ht.paths "target_field" (by rw [hk]; decide))
    have htarget : Setting.toPath? (t.setting "target_field") = .ok (some p) := by
      rw [hx] at hp
      rw [setting, hx]
      simp [Setting.toPath?, hp, Except.map]
    rw [build_json hf htarget hroot] at h
    cases b
    · simp at h
    · simp only [Option.isSome_some, Bool.and_self, ite_true, Except.error.injEq] at h
      subst h
      exact .jsonBoth hk (by simp [hx]) hb

/-- A processor that is not built with the common options is unconvertible, or is not
implemented. -/
theorem done_error (ht : t.Ready) {e : Error} (hplan : t.plan = .done (.error e)) :
    e = .notImplemented ∨ t.Unconvertible e := by
  cases hk : t.kind <;>
    simp only [plan, hk, reduceCtorEq, Plan.done.injEq, Except.error.injEq] at hplan
  case communityId => exact .inr (hplan ▸ .communityId hk)
  case convert => exact .inl (ht.conversion_error hk hplan)
  case date => exact .inr (hplan ▸ .date hk)
  case json => exact .inr (ht.json_error hk hplan)
  case remove | set => split at hplan <;> cases hplan
  all_goals exact .inl hplan.symm

end Step.Ready

namespace Step

theorem convertFailure_ok {o : Option (List Step)} {failure : Setting}
    (h : convertFailure o = .ok failure) : ∃ x, Setting.toProcessors? failure = .ok x := by
  cases o with
  | none =>
    cases h
    exact ⟨none, rfl⟩
  | some steps =>
    rw [convertFailure] at h
    cases hl : convertList steps with
    | error e => simp [hl, bind, Except.bind] at h
    | ok ps =>
      simp only [hl, bind, Except.bind, pure, Except.pure, Except.ok.injEq] at h
      exact ⟨some ps, h ▸ rfl⟩

theorem convertFailure_error {o : Option (List Step)} {e : Error}
    (h : convertFailure o = .error e) : ∃ steps, o = some steps ∧ convertList steps = .error e := by
  cases o with
  | none => cases h
  | some steps =>
    rw [convertFailure] at h
    cases hl : convertList steps with
    | error e' =>
      simp only [hl, bind, Except.bind, Except.error.injEq] at h
      exact ⟨steps, rfl, h ▸ hl⟩
    | ok ps => simp [hl, bind, Except.bind, pure, Except.pure] at h

theorem convertList_cons_error {s : Step} {ss : List Step} {e : Error}
    (h : convertList (s :: ss) = .error e) : s.convert = .error e ∨ convertList ss = .error e := by
  rw [convertList] at h
  cases hs : s.convert with
  | error e' =>
    simp only [hs, bind, Except.bind, Except.error.injEq] at h
    exact .inl (h ▸ rfl)
  | ok p =>
    cases hl : convertList ss with
    | error e' =>
      simp only [hs, hl, bind, Except.bind, Except.error.injEq] at h
      exact .inr (h ▸ rfl)
    | ok ps => simp [hs, hl, bind, Except.bind, pure, Except.pure] at h

/-- One processor converted: it is unconvertible, or is not implemented, or one of its failure
processors fails. -/
theorem Ready.convert_error {t : Step} (ht : t.Ready) {e : Error} (h : t.convert = .error e) :
    e = .notImplemented ∨ t.Unconvertible e ∨
      ∃ steps, t.onFailure = some steps ∧ convertList steps = .error e := by
  rw [convert_eq] at h
  split at h
  · rename_i hplan
    subst h
    exact (ht.done_error hplan).imp_right .inl
  · rename_i target given hplan
    split at h
    · -- a condition is given
      rename_i hif
      cases h
      exact .inr (.inl (.condition (by simpa [isNull] using hif)))
    · cases hf : convertFailure t.onFailure with
      | error e' =>
        rw [hf] at h
        cases h
        exact .inr (.inr (convertFailure_error hf))
      | ok failure =>
        obtain ⟨p, hp⟩ := ht.build_ok hplan (convertFailure_ok hf)
        simp [hf, hp, Except.bind] at h

/-- A ready processor built with the common options, with no condition, converts once its
failure processors do. -/
theorem Ready.convert_ok {t : Step} (ht : t.Ready) {target : ProcessorKind} {given : Options}
    (hplan : t.plan = .build target given) (hif : t.value "if" = .scalar .null) {failure : Setting}
    (hf : convertFailure t.onFailure = .ok failure) : ∃ p, t.convert = .ok p := by
  obtain ⟨p, hp⟩ := ht.build_ok hplan (convertFailure_ok hf)
  refine ⟨p, ?_⟩
  rw [convert_eq, hplan]
  simp [hif, isNull, hf, hp, Except.bind]

theorem convert_of_convert {t : Step} (hk : t.kind = .convert) : t.convert = t.conversion := by
  rw [convert_eq, plan, hk]

/-- A processor built with the common options, with no condition, fails as its failure
processors do. -/
theorem convert_of_failure_error {t : Step} {target : ProcessorKind} {given : Options}
    (hplan : t.plan = .build target given) (hif : t.value "if" = .scalar .null)
    {steps : List Step} (hsteps : t.onFailure = some steps) {e : Error}
    (h : convertList steps = .error e) : t.convert = .error e := by
  rw [convert_eq, hplan, hsteps]
  simp [hif, isNull, convertFailure, h, bind, Except.bind]

/-- A processor built with the common options that has a condition fails to convert, whatever
its failure processors. -/
theorem convert_of_condition {t : Step} {target : ProcessorKind} {given : Options}
    (hplan : t.plan = .build target given) (hif : t.value "if" ≠ .scalar .null) :
    t.convert = .error .conditionArgument := by
  rw [convert_eq, hplan]
  simp [hif, isNull]

mutual

/-- A processor whose processors at every depth are ready converts, or fails at an unconvertible
one of them, or is not implemented. The recursion follows that of conversion. -/
theorem convert_error : ∀ (s : Step), (∀ t : Step, t.Occurs s → t.Ready) → ∀ {e : Error},
    s.convert = .error e → e = .notImplemented ∨ ∃ t : Step, t.Occurs s ∧ t.Unconvertible e
  | .mk name kind values onFailure, hready, e, h => by
    rcases (hready _ (.refl _)).convert_error h with hni | hd | ⟨steps, hsteps, hl⟩
    · exact .inl hni
    · exact .inr ⟨_, .refl _, hd⟩
    · cases hsteps
      rcases convertList_error steps (fun u hu t ht => hready t (.failure hu ht)) hl with
        hni | ⟨u, hu, t, ht, hd⟩
      · exact .inl hni
      · exact .inr ⟨t, .failure hu ht, hd⟩

theorem convertList_error : ∀ (ss : List Step), (∀ s ∈ ss, ∀ t : Step, t.Occurs s → t.Ready) →
    ∀ {e : Error}, convertList ss = .error e →
      e = .notImplemented ∨ ∃ s ∈ ss, ∃ t : Step, t.Occurs s ∧ t.Unconvertible e
  | [], _, _, h => by cases h
  | s :: ss, hready, e, h => by
    rcases convertList_cons_error h with hs | hl
    · rcases convert_error s (hready s List.mem_cons_self) hs with hni | ⟨t, ht, hd⟩
      · exact .inl hni
      · exact .inr ⟨s, List.mem_cons_self, t, ht, hd⟩
    · rcases convertList_error ss (fun u hu => hready u (List.mem_cons_of_mem s hu)) hl with
        hni | ⟨u, hu, t, ht, hd⟩
      · exact .inl hni
      · exact .inr ⟨u, List.mem_cons_of_mem s hu, t, ht, hd⟩

end

end Step

/-! ## Processors validation read -/

namespace Registry

variable (r : Registry)

/-- A failure processor of a processor validation read was read itself. -/
theorem readStep_failure {fuel : Nat} {e : Element} {name : String} {kind : Kind}
    {values : List (String × Element)} {steps : List Step} {u : Step}
    (h : r.readStep fuel e = some (.mk name kind values (some steps))) (hu : u ∈ steps) :
    ∃ f e', r.readStep f e' = some u := by
  obtain ⟨fuel', entries, -, -, -, -, -, -, hs⟩ := r.readStep_eq_some h
  obtain ⟨options, values', onFailure, -, -, ho, hs'⟩ := r.readEntry_eq_some_iff.mp hs
  simp only [Step.name, Step.kind, Step.mk.injEq, true_and] at hs'
  obtain ⟨-, rfl⟩ := hs'
  obtain ⟨v, hv⟩ := r.readFailure_eq_some_some ho
  obtain ⟨f, items, -, -, hf⟩ := r.readSteps_eq_some hv
  obtain ⟨item, -, hitem⟩ := forall₂_exists_left hf hu
  exact ⟨f, item, hitem⟩

/-- Every processor at every depth of a processor validation read was read itself. -/
theorem readStep_of_occurs {fuel : Nat} {e : Element} {s t : Step}
    (h : r.readStep fuel e = some s) (ht : t.Occurs s) : ∃ f e', r.readStep f e' = some t := by
  induction ht generalizing fuel e with
  | refl => exact ⟨fuel, e, h⟩
  | failure hu _ ih =>
    obtain ⟨f, e', h'⟩ := r.readStep_failure h hu
    exact ih h'

/-- Every processor at every depth of a processor validation read is checked against its
kind. -/
theorem checked_of_occurs {fuel : Nat} {e : Element} {s t : Step}
    (h : r.readStep fuel e = some s) (ht : t.Occurs s) : t.kind.Checked t.values := by
  obtain ⟨f, e', h'⟩ := r.readStep_of_occurs h ht
  obtain ⟨-, options, -, -, -, hv, -⟩ := r.readStep_entry h'
  exact Kind.readValues_checked hv

/-- Every processor at every depth of a definition validation accepted is checked against its
kind. -/
theorem checked_of_readRaw {raw : Element} {d : Definition} (hd : r.readRaw raw = .ok d)
    {s t : Step} (hs : s ∈ d.processors) (ht : t.Occurs s) : t.kind.Checked t.values := by
  obtain ⟨⟨f, e, hread⟩, -⟩ := r.readRaw_lists hd
  obtain ⟨f', items, -, -, hf⟩ := r.readSteps_eq_some hread
  obtain ⟨item, -, hitem⟩ := forall₂_exists_left hf hs
  exact r.checked_of_occurs hitem ht

end Registry

/-! ## Conversion fails only at unconvertible processors -/

theorem Step.convertList_cons_of_error {s : Step} {ss : List Step} {e : Error}
    (h : s.convert = .error e) : convertList (s :: ss) = .error e := by
  simp [convertList, h, bind, Except.bind]

theorem Step.convertList_singleton_of_ok {s : Step} {p : Processor Element}
    (h : s.convert = .ok p) : convertList [s] = .ok [p] := by
  simp [convertList, h, bind, Except.bind, pure, Except.pure]

theorem Definition.toPipeline_of_error {d : Definition} {e : Error}
    (h : Step.convertList d.processors = .error e) : d.toPipeline = .error e := by
  simp [Definition.toPipeline, h, bind, Except.bind]

theorem Registry.parse_eq {r : Registry} {raw : Element} {d : Definition}
    (h : r.readRaw raw = .ok d) : r.parse raw = d.toPipeline := by
  simp [Registry.parse, h, bind, Except.bind]

/-- A processor whose paths are its field and its target, with a field path as its field and no
target, reads only valid paths. -/
theorem Step.pathsValid_of_field {s : Step} (hkeys : s.kind.pathKeys = ["field", "target_field"])
    {x : String} (hfield : s.value "field" = .scalar (.str x))
    (htarget : s.value "target_field" = .scalar .null) {p : FieldPath}
    (hp : FieldPath.parse x = .ok p) : s.PathsValid := by
  intro key hkey y hy
  simp only [hkeys, List.mem_cons, List.not_mem_nil, or_false] at hkey
  rcases hkey with rfl | rfl <;> simp [hfield, htarget, textsOf] at hy
  exact hy ▸ ⟨p, hp⟩

/-- Converting a definition validation accepted, in which every text conversion reads as a field
path is one, either succeeds, or is not implemented, or fails at an unconvertible processor at
some depth of failure processors (a date processor, a JSON processor writing both into a target
and at the root, a `community_id` processor, or a processor with a condition), with that
processor's error. -/
theorem parse_error_unimplemented_or_unconvertible {r : Registry} {raw : Element} {d : Definition}
    (hd : r.readRaw raw = .ok d)
    (hpaths : ∀ s ∈ d.processors, ∀ t : Step, t.Occurs s → t.PathsValid) {e : Error}
    (he : r.parse raw = .error e) :
    e = .notImplemented ∨ ∃ s ∈ d.processors, ∃ t : Step, t.Occurs s ∧ t.Unconvertible e := by
  have hconv : Step.convertList d.processors = .error e := by
    rw [← Registry.parse_processors hd, he]
    rfl
  exact Step.convertList_error d.processors
    (fun s hs t ht => ⟨r.checked_of_readRaw hd hs ht, hpaths s hs t ht⟩) hconv

/-- A lowercase processor with a condition is accepted by validation and reads a valid path, yet
fails to convert, and the definition with it. -/
theorem parse_conditional_lowercase_fails :
    let raw : Element := .list [.dict [("lowercase", .dict [("field", .scalar (.str "a")),
      ("if", .scalar (.str "ctx.a != null"))])]]
    ∃ d, Registry.standard.readRaw raw = .ok d ∧
      (∀ s ∈ d.processors, ∀ t : Step, t.Occurs s → t.PathsValid) ∧
      Registry.standard.parse raw = .error .conditionArgument := by
  intro raw
  obtain ⟨pa, ha⟩ := FieldPath.parse_of_char (s := "a") (by decide)
    (by simp [isPathPart, String.contains])
  obtain ⟨s, hread, hkind, hif, hfield, htarget, hfail⟩ : ∃ s,
      Registry.standard.readRaw raw = .ok (.steps [s]) ∧ s.kind = .lowercase ∧
      s.value "if" = .scalar (.str "ctx.a != null") ∧ s.value "field" = .scalar (.str "a") ∧
      s.value "target_field" = .scalar .null ∧ s.onFailure = none :=
    ⟨_, rfl, rfl, rfl, rfl, rfl, rfl⟩
  refine ⟨_, hread, ?paths, ?parse⟩
  case paths =>
    -- the one processor has no failure processors
    intro u hu t ht
    simp only [Definition.processors, List.mem_singleton] at hu
    subst hu
    cases ht with
    | refl => exact Step.pathsValid_of_field (by rw [hkind]; rfl) hfield htarget ha
    | failure => simp [Step.onFailure] at hfail
  case parse =>
    rw [Registry.parse_eq hread]
    refine Definition.toPipeline_of_error (Step.convertList_cons_of_error ?_)
    exact Step.convert_of_condition (by rw [Step.plan, hkind]) (by simp [hif])

/-- A definition whose processor holds a date processor among its failure processors fails at
that date processor, which reads only keyword formats and has no field paths. -/
theorem parse_nested_date_fails :
    let raw : Element := .list [.dict [("lowercase", .dict [("field", .scalar (.str "a")),
      ("on_failure", .list [.dict [("date", .dict [("field", .scalar (.str "d")),
        ("formats", .list [.scalar (.str "UNIX")])])]])])]]
    ∃ d, Registry.standard.readRaw raw = .ok d ∧
      (∀ s ∈ d.processors, ∀ t : Step, t.Occurs s → t.PathsValid) ∧
      Registry.standard.parse raw = .error .patternFormatter ∧
      (Error.patternFormatter = .notImplemented ∨
        ∃ s ∈ d.processors, ∃ t : Step, t.Occurs s ∧ t.Unconvertible .patternFormatter) := by
  obtain ⟨pa, ha⟩ := FieldPath.parse_of_char (s := "a") (by decide)
    (by simp [isPathPart, String.contains])
  refine ⟨_, rfl, ?paths, ?parse, parse_error_unimplemented_or_unconvertible rfl ?paths ?parse⟩
  case paths =>
    intro s hs t ht
    simp only [Definition.processors, List.reverse_cons, List.reverse_nil, List.nil_append,
      List.mem_singleton] at hs
    subst hs
    cases ht with
    | refl =>
      -- the lowercase processor reads its field as a path, and has no target
      exact Step.pathsValid_of_field rfl rfl rfl ha
    | failure hu ht' =>
      -- the date processor reads no paths
      simp only [List.mem_singleton] at hu
      subst hu
      cases ht'
      intro key hkey
      simp [Step.kind, Kind.pathKeys] at hkey
  case parse =>
    rw [Registry.parse_eq rfl]
    refine Definition.toPipeline_of_error (Step.convertList_cons_of_error ?_)
    exact Step.convert_of_failure_error rfl rfl rfl (Step.convertList_cons_of_error rfl)

/-! ## The common options carried over -/

namespace Step

/-- A processor converted outright, not built with the common options, is a conversion or a JSON
processor. -/
theorem kind_of_plan_done {t : Step} {p : Processor Element} (h : t.plan = .done (.ok p)) :
    t.kind = .convert ∨ t.kind = .json := by
  cases hk : t.kind <;> simp only [plan, hk, reduceCtorEq, Plan.done.injEq] at h
  case convert => exact .inl rfl
  case json => exact .inr rfl
  case remove | set => split at h <;> cases h

/-- The failure processors read from the setting they were converted to. -/
theorem mapM_of_convertFailure {o : Option (List Step)} {failure : Setting}
    {x : Option (List (Processor Element))} (hf : convertFailure o = .ok failure)
    (hx : Setting.toProcessors? failure = .ok x) : o.mapM convertList = .ok x := by
  cases o with
  | none =>
    cases hf
    cases hx
    rfl
  | some steps =>
    rw [convertFailure] at hf
    cases hl : convertList steps with
    | error e => simp [hl, bind, Except.bind] at hf
    | ok ps =>
      simp only [hl, bind, Except.bind, pure, Except.pure, Except.ok.injEq] at hf
      subst hf
      cases hx
      simp [hl, Functor.map, Except.map]

/-- A processor converted with the common options carries its description, tag and
`ignore_failure` over, and has its failure processors converted in order. -/
theorem convert_carries {t : Step} {p : Processor Element} (hk : t.kind ≠ .convert ∧ t.kind ≠ .json)
    (h : t.convert = .ok p) :
    p.description = (t.value "description").toText? ∧ p.tag = (t.value "tag").toText? ∧
      t.value "ignore_failure" = .scalar (.bool p.ignoreFailure) ∧
      t.onFailure.mapM convertList = .ok p.onFailure := by
  rw [convert_eq] at h
  split at h
  · rename_i hplan
    subst h
    rcases kind_of_plan_done hplan with hc | hj
    · exact absurd hc hk.1
    · exact absurd hj hk.2
  · split at h
    · cases h
    · rename_i given _ _
      obtain ⟨failure, hf, hb⟩ := except_bind_eq_ok.mp h
      obtain ⟨-, hd, hg, -, hi, ho⟩ := Processor.build_eq_ok hb
      obtain ⟨ld, lg, li, lo⟩ := lookup_commonSettings t failure given
      simp only [Options.read, ld, lg, li, lo] at hd hg hi ho
      exact ⟨Setting.toText?_eq_ok hd, Setting.toText?_eq_ok hg, Setting.toBool_eq_ok hi,
        mapM_of_convertFailure hf ho⟩

/-- A conversion or a JSON processor is built from its field options alone: it has no
description, tag or failure processors, and does not ignore its failures. -/
theorem convert_drops {t : Step} {p : Processor Element} (hk : t.kind = .convert ∨ t.kind = .json)
    (h : t.convert = .ok p) :
    p.description = none ∧ p.tag = none ∧ p.ignoreFailure = false ∧ p.onFailure = none := by
  have hfield : ∀ q ∈ t.fieldSettings, q.1 ∉ commonKeys := by
    simp [fieldSettings, settings, commonKeys]
  rcases hk with hk | hk
  · -- the conversion of each type is built from the field options and its bounds or precision
    rw [convert_of_convert hk] at h
    unfold conversion at h
    split at h
    · split at h
      · exact Processor.build_without_common h (by simp [fieldSettings, settings, commonKeys])
      · split at h
        · exact Processor.build_without_common h (by simp [fieldSettings, settings, commonKeys])
        · exact Processor.build_without_common h (by simp [fieldSettings, settings, commonKeys])
        · exact Processor.build_without_common h hfield
        · exact Processor.build_without_common h hfield
        · exact Processor.build_without_common h hfield
        · cases h
    · cases h
  · rw [convert_of_json hk] at h
    exact Processor.build_without_common h (by simp [settings, commonKeys])

end Step

/-- What conversion makes of the common options. A processor built with them carries its
description, tag and `ignore_failure` over, and has its failure processors converted in order at
every depth; a conversion or a JSON processor is built from its field options alone, and has no
description, tag or failure processors and does not ignore its failures. -/
theorem convert_common_settings {s : Step} {p : Processor Element} (h : s.convert = .ok p) :
    (s.kind ≠ .convert → s.kind ≠ .json →
      p.description = (s.value "description").toText? ∧ p.tag = (s.value "tag").toText? ∧
        s.value "ignore_failure" = .scalar (.bool p.ignoreFailure) ∧
        s.onFailure.mapM Step.convertList = .ok p.onFailure) ∧
    (s.kind = .convert ∨ s.kind = .json →
      p.description = none ∧ p.tag = none ∧ p.ignoreFailure = false ∧ p.onFailure = none) :=
  ⟨fun hc hj => Step.convert_carries ⟨hc, hj⟩ h, fun hk => Step.convert_drops hk h⟩

/-- A conversion read with a tag and failure processors is converted to a processor with neither. -/
theorem parse_convert_drops_common_settings :
    let raw : Element := .list [.dict [("convert", .dict [("field", .scalar (.str "f")),
      ("type", .scalar (.str "string")), ("tag", .scalar (.str "t")),
      ("on_failure", .list [.dict [("lowercase", .dict [("field", .scalar (.str "g"))])]])])]]
    ∃ s p, Registry.standard.readRaw raw = .ok (.steps [s]) ∧
      s.value "tag" = .scalar (.str "t") ∧ s.onFailure.isSome ∧
      (Registry.standard.parse raw).map Pipeline.processors = .ok [p] ∧
      p.tag = none ∧ p.onFailure = none := by
  intro raw
  obtain ⟨pf, hpf⟩ := FieldPath.parse_of_char (s := "f") (by decide)
    (by simp [isPathPart, String.contains])
  obtain ⟨s, hread, hkind, htype, hfield, htarget, htag, hfail⟩ : ∃ s,
      Registry.standard.readRaw raw = .ok (.steps [s]) ∧ s.kind = .convert ∧
      s.value "type" = .scalar (.str "string") ∧ s.value "field" = .scalar (.str "f") ∧
      s.value "target_field" = .scalar .null ∧ s.value "tag" = .scalar (.str "t") ∧
      s.onFailure.isSome := ⟨_, rfl, rfl, rfl, rfl, rfl, rfl, rfl⟩
  have hpaths : s.PathsValid :=
    Step.pathsValid_of_field (by rw [hkind]; rfl) hfield htarget hpf
  have hready : s.Ready :=
    ⟨Registry.standard.checked_of_readRaw hread (List.mem_singleton_self s) (.refl s), hpaths⟩
  obtain ⟨p, hp⟩ := hready.conversion_ok hkind (by simp [htype])
  have hconv : s.convert = .ok p := (Step.convert_of_convert hkind).trans hp
  obtain ⟨-, hnotag, -, hnofail⟩ := Step.convert_drops (.inl hkind) hconv
  refine ⟨s, p, hread, htag, hfail, ?_, hnotag, hnofail⟩
  rw [Registry.parse_processors hread]
  exact Step.convertList_singleton_of_ok hconv

/-- A lowercase processor read with a tag and `ignore_failure` set is converted, and carries them
over. -/
theorem lowercase_carries_common_settings :
    let raw : Element := .list [.dict [("lowercase", .dict [("field", .scalar (.str "a")),
      ("tag", .scalar (.str "t")), ("ignore_failure", .scalar (.bool true))])]]
    ∃ s p, Registry.standard.readRaw raw = .ok (.steps [s]) ∧ s.convert = .ok p ∧
      (s.kind ≠ .convert → s.kind ≠ .json →
        p.description = (s.value "description").toText? ∧ p.tag = (s.value "tag").toText? ∧
          s.value "ignore_failure" = .scalar (.bool p.ignoreFailure) ∧
          s.onFailure.mapM Step.convertList = .ok p.onFailure) ∧
      (s.kind = .convert ∨ s.kind = .json →
        p.description = none ∧ p.tag = none ∧ p.ignoreFailure = false ∧ p.onFailure = none) := by
  intro raw
  obtain ⟨pa, ha⟩ := FieldPath.parse_of_char (s := "a") (by decide)
    (by simp [isPathPart, String.contains])
  obtain ⟨s, hread, hkind, hif, hfail, hfield, htarget⟩ : ∃ s,
      Registry.standard.readRaw raw = .ok (.steps [s]) ∧ s.kind = .lowercase ∧
      s.value "if" = .scalar .null ∧ s.onFailure = none ∧ s.value "field" = .scalar (.str "a") ∧
      s.value "target_field" = .scalar .null := ⟨_, rfl, rfl, rfl, rfl, rfl, rfl⟩
  have hpaths : s.PathsValid :=
    Step.pathsValid_of_field (by rw [hkind]; rfl) hfield htarget ha
  have hready : s.Ready :=
    ⟨Registry.standard.checked_of_readRaw hread (List.mem_singleton_self s) (.refl s), hpaths⟩
  obtain ⟨p, hp⟩ := hready.convert_ok (by rw [Step.plan, hkind]) hif (by rw [hfail]; rfl)
  exact ⟨s, p, hread, hp, convert_common_settings hp⟩

end Elastic

end Ingest
