import Ingest.Time.Formatter

/-!
# Reading with a chain of formatters

A fallback formatter reads a value with each of its formatters in turn and moves on only after
a value error (`Formatter.parseFirst`). So the result is decided by the first formatter whose
reading gives a date or fails in another way, provided every formatter before it failed with a
value error; when all of them fail with a value error, the fallback fails with its own value
error (`Formatter.parseFirst_eq_iff`).

A failure of another kind stops the search: the ISO 8601 and TAI64N formatters refuse a value
that is not a text with a type error, so a fallback that starts with one of them does not reach
a later formatter for a number (`Formatter.fallback_first_formatter_to_decide`).
-/

namespace Ingest.Time

namespace Formatter

variable {s : Store} {v : Node} {f g : Formatter} {fs : List Formatter} {t : DateTime}
  {e : Error} {r : Except Error DateTime}

/-! ## One formatter of the chain -/

/-- Reading `v` with `g` fails with a value error, so a fallback goes on to its next formatter. -/
def FailsWithValueError (s : Store) (v : Node) (g : Formatter) : Prop :=
  ∃ e, parse s v g = .error e ∧ isValueError e = true

/-- A result that ends the search of a fallback: a date, or a failure other than a value
error. -/
def Stops : Except Error DateTime → Prop
  | .ok _ => True
  | .error e => isValueError e = false

theorem parse_fallback : parse s v (.fallback f fs) = parseFirst s v (f :: fs) := by
  rw [parse]

theorem parseFirst_nil : parseFirst s v [] = .error .noFormatter := by
  rw [parseFirst]

theorem parseFirst_cons_of_stops (h : Stops (parse s v f)) :
    parseFirst s v (f :: fs) = parse s v f := by
  rw [parseFirst]
  cases hp : parse s v f with
  | ok t => rfl
  | error e =>
    rw [hp] at h
    simp only [Stops] at h
    simp only [h]
    rfl

theorem parseFirst_cons_of_fails (h : FailsWithValueError s v f) :
    parseFirst s v (f :: fs) = parseFirst s v fs := by
  obtain ⟨e, hp, he⟩ := h
  rw [parseFirst, hp]
  simp only [he, if_true]

/-- Each formatter either ends the search or passes it on. -/
theorem stops_or_fails (s : Store) (v : Node) (g : Formatter) :
    Stops (parse s v g) ∨ FailsWithValueError s v g := by
  cases hp : parse s v g with
  | ok t => exact .inl trivial
  | error e =>
    cases he : isValueError e
    · exact .inl he
    · exact .inr ⟨e, hp, he⟩

theorem not_stops_of_fails (h : FailsWithValueError s v g) : ¬ Stops (parse s v g) := by
  obtain ⟨e, hp, he⟩ := h
  rw [hp]
  simp [Stops, he]

/-! ## The whole chain -/

/-- A list of formatters reads a value as its first formatter that ends the search, all those
before it having failed with a value error; when every one fails with a value error, the list
fails with its own value error. -/
theorem parseFirst_eq_iff :
    parseFirst s v fs = r ↔
      (r = .error .noFormatter ∧ ∀ g ∈ fs, FailsWithValueError s v g) ∨
      ∃ pre g post, fs = pre ++ g :: post ∧ (∀ h ∈ pre, FailsWithValueError s v h) ∧
        parse s v g = r ∧ Stops r := by
  induction fs with
  | nil => simp [parseFirst_nil, eq_comm]
  | cons f fs ih =>
    rcases stops_or_fails s v f with hs | hf
    · -- `f` decides: nothing before it, and it cannot be one of the formatters passed over
      rw [parseFirst_cons_of_stops hs]
      constructor
      · rintro rfl
        exact .inr ⟨[], f, fs, rfl, by simp, rfl, hs⟩
      · rintro (⟨-, hall⟩ | ⟨pre, g, post, hsplit, hpre, hg, -⟩)
        · exact absurd hs (not_stops_of_fails (hall f List.mem_cons_self))
        · rcases List.cons_eq_append_iff.1 hsplit with ⟨rfl, hcons⟩ | ⟨pre', rfl, -⟩
          · obtain ⟨rfl, -⟩ := List.cons.inj hcons
            exact hg
          · exact absurd hs (not_stops_of_fails (hpre f List.mem_cons_self))
    · -- `f` is passed over: the rest of the list decides, one formatter further on
      rw [parseFirst_cons_of_fails hf, ih, List.forall_mem_cons]
      refine or_congr (and_congr_right fun _ => (and_iff_right hf).symm) ⟨?_, ?_⟩
      · rintro ⟨pre, g, post, rfl, hpre, hg, hr⟩
        exact ⟨f :: pre, g, post, rfl, List.forall_mem_cons.2 ⟨hf, hpre⟩, hg, hr⟩
      · rintro ⟨pre, g, post, hsplit, hpre, hg, hr⟩
        rcases List.cons_eq_append_iff.1 hsplit with ⟨rfl, hcons⟩ | ⟨pre', rfl, hfs⟩
        · obtain ⟨rfl, -⟩ := List.cons.inj hcons
          exact absurd (hg ▸ hr) (not_stops_of_fails hf)
        · exact ⟨pre', g, post, hfs, fun h hh => hpre h (List.mem_cons_of_mem f hh), hg, hr⟩

/-- A fallback reads a value as the first of its formatters that gives a date, provided every
formatter before that one failed with a value error. A failure other than a value error
(`Stops`) ends the search and is the fallback's own failure; the fallback fails with its value
error `noFormatter` exactly when every formatter fails with a value error. The ISO 8601 and
TAI64N formatters refuse a value that holds no text with a type error, which is no value
error. -/
theorem fallback_first_formatter_to_decide (s : Store) (v : Node) (f : Formatter)
    (fs : List Formatter) (t : DateTime) (e : Error) :
    (parse s v (.fallback f fs) = .ok t ↔
      ∃ pre g post, f :: fs = pre ++ g :: post ∧ (∀ h ∈ pre, FailsWithValueError s v h) ∧
        parse s v g = .ok t) ∧
    (parse s v (.fallback f fs) = .error e ↔
      (e = .noFormatter ∧ ∀ g ∈ f :: fs, FailsWithValueError s v g) ∨
      ∃ pre g post, f :: fs = pre ++ g :: post ∧ (∀ h ∈ pre, FailsWithValueError s v h) ∧
        parse s v g = .error e ∧ isValueError e = false) ∧
    (FailsWithValueError s v (.fallback f fs) ↔ ∀ g ∈ f :: fs, FailsWithValueError s v g) ∧
    Error.noFormatter.kind = "ValueError" ∧
    ((∀ u, s.scalarOf? v ≠ some (.str u)) →
      parse s v .iso8601 = .error .formatterInput ∧ parse s v .tai64n = .error .formatterInput ∧
        isValueError .formatterInput = false ∧ Error.formatterInput.kind = "TypeError") := by
  refine ⟨?_, ?_, ?_, rfl, fun hv => ⟨?_, ?_, rfl, rfl⟩⟩
  · rw [parse_fallback, parseFirst_eq_iff]
    simp [Stops]
  · rw [parse_fallback, parseFirst_eq_iff]
    simp only [Except.error.injEq, Stops]
  · constructor
    · rintro ⟨e, he, hve⟩
      rw [parse_fallback, parseFirst_eq_iff] at he
      rcases he with ⟨-, hall⟩ | ⟨-, -, -, -, -, -, hstop⟩
      · exact hall
      · simp [Stops, hve] at hstop
    · intro hall
      refine ⟨.noFormatter, ?_, rfl⟩
      rw [parse_fallback, parseFirst_eq_iff]
      exact .inl ⟨rfl, hall⟩
  -- a value holding no text is refused before it is read
  all_goals
    rw [parse]
    split
    · rename_i u hu
      exact absurd hu (hv u)
    · rfl

/-- The number 5 read with the ISO 8601 formatter, then the UNIX formatter: the ISO 8601
formatter refuses a number with a type error, which ends the search, although the UNIX formatter
reads 5 as five seconds past 1970. -/
theorem fallback_stops_at_type_error :
    parse Store.empty (.scalar (.int 5)) (.fallback .iso8601 [.unix]) = .error .formatterInput ∧
      parse Store.empty (.scalar (.int 5)) .unix = .ok ⟨1970, 1, 1, 0, 0, 5, 0, some Zone.utc⟩ := by
  have hiso : parse Store.empty (.scalar (.int 5)) .iso8601 = .error .formatterInput := by
    rw [parse]
    rfl
  refine ⟨?_, ?_⟩
  · rw [parse_fallback, parseFirst_cons_of_stops (by rw [hiso]; rfl), hiso]
  · -- the timestamp is evaluated in the kernel, read back through `toOption`
    have hread : (parse Store.empty (.scalar (.int 5)) .unix).toOption =
        some ⟨1970, 1, 1, 0, 0, 5, 0, some Zone.utc⟩ := by
      rw [parse]
      decide +kernel
    cases hp : parse Store.empty (.scalar (.int 5)) .unix with
    | ok d =>
      rw [hp] at hread
      cases hread
      rfl
    | error e =>
      rw [hp] at hread
      cases hread

end Formatter

end Ingest.Time
