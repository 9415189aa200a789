import Mathlib.Data.String.Basic
import Ingest.Error

/-!
# Path texts

A field path is written as its parts joined with dots (`FieldPath.render`) and read back by
cutting the text at every dot (`FieldPath.parse`). Reading accepts exactly the texts of the
grammar `[^.]+(\.[^.]+)*`, given on characters by `DottedText`: a text with a leading, trailing
or doubled dot has an empty piece between two dots, which reading refuses, naming the text; the
empty text is refused on its own, as a failed validation. On the texts it accepts, reading is
the inverse of writing, so two paths are equal exactly when their texts are, and a path equals a
text exactly when the text reads as it.

The main statements are `FieldPath.parse_accepts_dotted_grammar` and, for joining a path with a
path or a text, `FieldPath.join_concatenates_parts`. They rest on one fact about texts: cutting a
text at a one-character separator cuts its characters as `List.splitOn` does
(`String.splitOn_singleton`), so the laws of `List.splitOn` and `List.intercalate` carry over.
-/

namespace String

/-- The search for a one-character separator, started after the characters `l ++ m` of which `m`
is the piece read so far, cuts the rest `r` as `List.splitOnPPrepend` does. The positions it
walks are the byte offsets of those characters. -/
theorem splitOnAux_singleton_of_valid (c : Char) (l m r : List Char) (acc : List String) :
    splitOnAux (ofList (l ++ m ++ r)) (singleton c) ⟨utf8Len l⟩ ⟨utf8Len l + utf8Len m⟩ 0 acc =
      acc.reverse ++ (List.splitOnPPrepend (· == c) r m.reverse).map ofList := by
  unfold splitOnAux
  simp only [List.append_assoc, atEnd_iff, rawEndPos_ofList, utf8Len_append, Pos.Raw.mk_le_mk,
    Nat.add_le_add_iff_left, (by omega : utf8Len m + utf8Len r ≤ utf8Len m ↔ utf8Len r = 0),
    utf8Len_eq_zero, List.reverse_cons]
  split
  · subst r
    simpa using extract_of_valid l m []
  · obtain ⟨c', r, rfl⟩ := r.exists_cons_of_ne_nil ‹_›
    have hsep : (0 : Pos.Raw).get (singleton c) = c := by
      simpa using get_of_valid [] [c]
    have hget := get_of_valid (l ++ m) (c' :: r)
    have hnext := next_of_valid (l ++ m) c' r
    simp only [List.append_assoc, utf8Len_append, List.headD_cons] at hget hnext
    have hsepNext : (0 : Pos.Raw).next (singleton c) = ⟨c.utf8Size⟩ := by
      simpa using next_of_valid [] c []
    have hsepEnd : (singleton c).rawEndPos = ⟨c.utf8Size⟩ := by
      rw [singleton_eq_ofList, rawEndPos_ofList]
      simp
    rw [hget, hsep, hnext, hsepNext, hsepEnd]
    by_cases h : c' = c
    · -- the separator: the piece `m` ends before it, and the search starts again after it
      subst h
      have hext := extract_of_valid l m (c' :: r)
      simp only [List.append_assoc] at hext
      simp only [beq_self_eq_true, if_true, Pos.Raw.le_refl, Pos.Raw.unoffsetBy,
        Nat.add_sub_cancel, hext]
      simpa [Nat.add_assoc, List.splitOnPPrepend_cons_eq_if] using
        splitOnAux_singleton_of_valid c' (l ++ m ++ [c']) [] r (ofList m :: acc)
    · simp only [beq_iff_eq, h, if_false, Pos.Raw.unoffsetBy_zero, hnext]
      simpa [Nat.add_assoc, List.splitOnPPrepend_cons_eq_if, h] using
        splitOnAux_singleton_of_valid c l (m ++ [c']) r acc

/-- Cutting a text at a one-character separator cuts its characters. -/
theorem splitOn_singleton (s : String) (c : Char) :
    s.splitOn (singleton c) = (s.toList.splitOn c).map ofList := by
  have hne : (singleton c == "") = false := by simp
  simpa [splitOn, hne, List.splitOn_eq_splitOnP] using
    splitOnAux_singleton_of_valid c [] [] s.toList []

end String

namespace Ingest

/-! ## The grammar of path texts -/

/-- No piece of a list cut at `c` holds `c`. -/
theorem List.not_mem_of_mem_splitOn {c : Char} :
    ∀ {cs w : List Char}, w ∈ cs.splitOn c → c ∉ w
  | [], w, hw => by simp_all
  | x :: xs, w, hw => by
    rw [List.splitOn_cons_eq_if_modifyHead] at hw
    split_ifs at hw with hx
    · rcases List.mem_cons.1 hw with rfl | hw
      · simp
      · exact not_mem_of_mem_splitOn hw
    · obtain ⟨r, rs, hr⟩ := List.exists_cons_of_ne_nil (List.splitOn_ne_nil c xs)
      rw [hr, List.modifyHead_cons] at hw
      rcases List.mem_cons.1 hw with rfl | hw
      · simp only [List.mem_cons, not_or]
        exact ⟨fun h => by simp [h] at hx, not_mem_of_mem_splitOn (hr ▸ List.mem_cons_self ..)⟩
      · exact not_mem_of_mem_splitOn (hr ▸ List.mem_cons_of_mem _ hw)

/-- The grammar `[^.]+(\.[^.]+)*` of path texts, on characters: a part, or a part, a dot and
a text of the grammar; a part is a non-empty run of characters other than the dot. -/
inductive DottedText : List Char → Prop
  | part {w : List Char} (ne : w ≠ []) (noDot : '.' ∉ w) : DottedText w
  | dot {w rest : List Char} (ne : w ≠ []) (noDot : '.' ∉ w) (tail : DottedText rest) :
      DottedText (w ++ '.' :: rest)

namespace DottedText

/-- Non-empty parts without dots, joined with dots, are a text of the grammar. -/
theorem intercalate :
    ∀ {ws : List (List Char)}, ws ≠ [] → (∀ w ∈ ws, w ≠ [] ∧ '.' ∉ w) →
      DottedText (['.'].intercalate ws)
  | [], hne, _ => absurd rfl hne
  | [w], _, h => by
    obtain ⟨hw, hdot⟩ := h w (by simp)
    simpa using part hw hdot
  | w :: w' :: ws, _, h => by
    obtain ⟨hw, hdot⟩ := h w (by simp)
    have tail : DottedText (['.'].intercalate (w' :: ws)) :=
      intercalate (by simp) fun v hv => h v (by simp_all)
    simpa [List.intercalate_cons_cons] using dot hw hdot tail

/-- Cut at its dots, a text of the grammar has no empty piece. -/
theorem pieces_ne_nil {cs : List Char} (h : DottedText cs) : ∀ w ∈ cs.splitOn '.', w ≠ [] := by
  induction h with
  | part hw hdot => simpa [List.splitOn_eq_singleton hdot] using hw
  | dot hw hdot _ ih =>
    rw [List.splitOn_append_cons_self_of_not_mem hdot]
    simpa [hw] using ih

end DottedText

/-- A text is of the grammar exactly when no piece between its dots is empty. -/
theorem dottedText_iff_pieces {cs : List Char} :
    DottedText cs ↔ ∀ w ∈ cs.splitOn '.', w ≠ [] := by
  refine ⟨DottedText.pieces_ne_nil, fun h => ?_⟩
  rw [← @List.intercalate_splitOn _ cs _ _ '.']
  exact DottedText.intercalate (List.splitOn_ne_nil _ _)
    fun w hw => ⟨h w hw, List.not_mem_of_mem_splitOn hw⟩

/-! ## Reading and writing path texts -/

namespace FieldPath

theorem splitOn_dot (s : String) : s.splitOn "." = (s.toList.splitOn '.').map String.ofList :=
  String.splitOn_singleton s '.'

theorem isPathPart_iff {w : String} : isPathPart w = true ↔ w ≠ "" ∧ '.' ∉ w.toList := by
  simp [isPathPart]

theorem isPathPart_ofList {w : List Char} :
    isPathPart (String.ofList w) = true ↔ w ≠ [] ∧ '.' ∉ w := by
  simp [isPathPart_iff]

/-- Each part of a path is non-empty and has no dot. -/
theorem mem_parts {p : FieldPath} {w : String} (h : w ∈ p.parts) : w ≠ "" ∧ '.' ∉ w.toList :=
  isPathPart_iff.1 (List.all_eq_true.1 p.wellFormed w h)

/-- Joining the pieces of a text cut at dots gives the text back. -/
theorem intercalate_splitOn_dot (s : String) : ".".intercalate (s.splitOn ".") = s := by
  apply String.toList_injective
  simp [splitOn_dot, Function.comp_def]

/-- Cutting the text of a path at dots gives its parts. -/
theorem splitOn_render (p : FieldPath) : p.render.splitOn "." = p.parts := by
  have hparts : ∀ l ∈ p.parts.map String.toList, '.' ∉ l := by
    intro l hl
    obtain ⟨w, hw, rfl⟩ := List.mem_map.1 hl
    exact (mem_parts hw).2
  have hdot : ".".toList = ['.'] := by simp
  rw [splitOn_dot, render, String.toList_intercalate, hdot,
    List.splitOn_intercalate '.' hparts (by simpa using p.nonempty)]
  simp [Function.comp_def]

/-- A list of parts makes exactly the path with those parts. -/
theorem ofParts_eq_ok_iff {parts : List String} {p : FieldPath} :
    ofParts parts = .ok p ↔ p.parts = parts := by
  constructor
  · intro h
    unfold ofParts at h
    split_ifs at h
    cases h
    rfl
  · rintro rfl
    simp [ofParts, p.nonempty, p.wellFormed]

theorem ext {p q : FieldPath} (h : p.parts = q.parts) : p = q := by
  cases p
  cases q
  simp_all

/-- A text whose pieces between dots are all non-empty reads as the path of those pieces. -/
theorem parse_of_pieces {s : String} (h : ∀ w ∈ s.toList.splitOn '.', w ≠ []) :
    ∃ p, parse s = .ok p ∧ p.parts = s.splitOn "." := by
  have hs : s.isEmpty = false := by
    by_contra he
    have : s = "" := by simpa using he
    subst this
    exact h [] (by simp) rfl
  have hany : (s.splitOn ".").any String.isEmpty = false := by
    simpa [splitOn_dot] using h
  have hall : (s.splitOn ".").all isPathPart = true := by
    simp only [splitOn_dot, List.all_map, List.all_eq_true, Function.comp_apply, isPathPart_ofList]
    exact fun w hw => ⟨h w hw, List.not_mem_of_mem_splitOn hw⟩
  have hne : s.splitOn "." ≠ [] := by simp [splitOn_dot]
  exact ⟨⟨_, hne, hall⟩, by simp [parse, hs, hany, ofParts_eq_ok_iff], rfl⟩

/-- The pieces between the dots of a path's text are its parts, none of them empty. -/
theorem pieces_render_ne_nil (p : FieldPath) : ∀ w ∈ p.render.toList.splitOn '.', w ≠ [] := by
  intro w hw
  have hw' : String.ofList w ∈ p.parts := by
    rw [← splitOn_render, splitOn_dot]
    exact List.mem_map_of_mem hw
  simpa using (mem_parts hw').1

/-- A non-empty text with an empty piece between dots is malformed. -/
theorem parse_of_empty_piece {s : String} (hs : s ≠ "") (h : [] ∈ s.toList.splitOn '.') :
    parse s = .error (.malformed s) := by
  have hany : (s.splitOn ".").any String.isEmpty = true := by
    simp only [splitOn_dot, List.any_map, List.any_eq_true, Function.comp_apply]
    exact ⟨[], h, by simp⟩
  simp [parse, hs, hany]

/-- Reading a text gives exactly the path whose text it is. -/
theorem parse_eq_ok_iff {s : String} {p : FieldPath} : parse s = .ok p ↔ p.render = s := by
  constructor
  · intro h
    unfold parse at h
    dsimp only at h
    split_ifs at h
    rw [ofParts_eq_ok_iff] at h
    rw [render, h, intercalate_splitOn_dot]
  · rintro rfl
    obtain ⟨q, hq, hparts⟩ := parse_of_pieces (pieces_render_ne_nil p)
    rw [hq, ext (hparts.trans (splitOn_render p))]

/-- Reading succeeds on exactly the texts of the grammar. -/
theorem parse_ok_iff_dottedText {s : String} : (∃ p, parse s = .ok p) ↔ DottedText s.toList := by
  rw [dottedText_iff_pieces]
  constructor
  · rintro ⟨p, hp⟩
    rw [← parse_eq_ok_iff.1 hp]
    exact pieces_render_ne_nil p
  · intro h
    obtain ⟨p, hp, -⟩ := parse_of_pieces h
    exact ⟨p, hp⟩

/-- A non-empty text outside the grammar is malformed. -/
theorem parse_of_not_dottedText {s : String} (hs : s ≠ "") (h : ¬ DottedText s.toList) :
    parse s = .error (.malformed s) := by
  rw [dottedText_iff_pieces] at h
  push Not at h
  obtain ⟨w, hw, rfl⟩ := h
  exact parse_of_empty_piece hs hw

theorem parse_empty : parse "" = .error .empty := rfl

/-- Two paths are equal exactly when their texts are. -/
theorem eq_iff_render_eq {p q : FieldPath} : p = q ↔ p.render = q.render := by
  refine ⟨congrArg render, fun h => ext ?_⟩
  rw [← splitOn_render p, h, splitOn_render]

/-- A non-empty list of non-empty parts without dots is a path, and its text reads back as it. -/
theorem ofParts_render_parse {parts : List String} (hne : parts ≠ [])
    (h : ∀ w ∈ parts, w ≠ "" ∧ '.' ∉ w.toList) :
    ∃ p, ofParts parts = .ok p ∧ parse p.render = .ok p ∧ p.parts = parts := by
  have hall : parts.all isPathPart = true :=
    List.all_eq_true.2 fun w hw => isPathPart_iff.2 (h w hw)
  exact ⟨⟨parts, hne, hall⟩, ofParts_eq_ok_iff.2 rfl, parse_eq_ok_iff.2 rfl, rfl⟩

/-- Reading a path text accepts exactly the grammar `[^.]+(\.[^.]+)*` and is the inverse of
writing: a text reads as the path whose text it is, with the pieces between its dots as parts;
any other non-empty text is refused as malformed, named in the failure, and the empty text fails
validation. A list of non-empty parts without dots makes a path whose text reads back as it, and
paths are equal exactly when their texts are. -/
theorem parse_accepts_dotted_grammar :
    (∀ s : String, (∃ p, parse s = .ok p) ↔ DottedText s.toList) ∧
    (∀ (s : String) (p : FieldPath), parse s = .ok p ↔ p.render = s) ∧
    (∀ (s : String) (p : FieldPath), parse s = .ok p → p.parts = s.splitOn ".") ∧
    (∀ s : String, s ≠ "" → ¬ DottedText s.toList →
      parse s = .error (.malformed s) ∧ (PathError.malformed s).toError.kind = "ValueError" ∧
        (PathError.malformed s).toError.message = some ("Invalid field path: " ++ s)) ∧
    (parse "" = .error .empty ∧ PathError.empty.toError.kind = "ValidationError") ∧
    (∀ parts : List String, parts ≠ [] → (∀ w ∈ parts, w ≠ "" ∧ '.' ∉ w.toList) →
      ∃ p, ofParts parts = .ok p ∧ parse p.render = .ok p ∧ p.parts = parts) ∧
    (∀ p q : FieldPath, p = q ↔ p.render = q.render) :=
  ⟨fun _ => parse_ok_iff_dottedText,
   fun _ _ => parse_eq_ok_iff,
   fun s p h => by rw [← parse_eq_ok_iff.1 h, splitOn_render],
   fun _ hs h => ⟨parse_of_not_dottedText hs h, rfl, rfl⟩,
   ⟨parse_empty, rfl⟩,
   fun _ => ofParts_render_parse,
   fun _ _ => eq_iff_render_eq⟩

/-! ## Joining paths

`p.join q` puts the parts of `q` after those of `p`, and `p.joinText s` does the same with the
parts read from `s`. Reading a non-empty text fails only as malformed, so joining fails exactly
where reading does, with the same error; the empty text is the one exception: reading refuses
it, while joining with it adds no part and keeps `p`. -/

theorem join_parts (p q : FieldPath) : (p.join q).parts = p.parts ++ q.parts := rfl

/-- The text of a joined path is the two texts with a dot between them. -/
theorem render_join (p q : FieldPath) : (p.join q).render = p.render ++ "." ++ q.render :=
  String.intercalate_append_of_ne_nil p.nonempty q.nonempty

/-- Reading a non-empty text fails only as malformed, naming the text. -/
theorem parse_error_of_ne_empty {s : String} {e : PathError} (hs : s ≠ "")
    (h : parse s = .error e) : e = .malformed s := by
  by_cases hpieces : ∀ w ∈ s.toList.splitOn '.', w ≠ []
  · obtain ⟨p, hp, -⟩ := parse_of_pieces hpieces
    rw [hp] at h
    cases h
  · push Not at hpieces
    obtain ⟨w, hw, rfl⟩ := hpieces
    rw [parse_of_empty_piece hs hw] at h
    cases h
    rfl

theorem ne_empty_of_parse_ok {s : String} {q : FieldPath} (h : parse s = .ok q) : s ≠ "" := by
  rintro rfl
  cases h

theorem joinText_empty (p : FieldPath) : p.joinText "" = .ok p := rfl

theorem joinText_of_parse_ok {p q : FieldPath} {s : String} (h : parse s = .ok q) :
    p.joinText s = .ok (p.join q) := by
  have hs : s.isEmpty = false := by simpa using ne_empty_of_parse_ok h
  simp only [joinText, hs, h]
  rfl

theorem joinText_of_parse_error {p : FieldPath} {s : String} {e : PathError} (hs : s ≠ "")
    (h : parse s = .error e) : p.joinText s = .error (.malformed s) := by
  have he := parse_error_of_ne_empty hs h
  subst he
  have hs' : s.isEmpty = false := by simpa using hs
  simp only [joinText, hs', h]
  rfl

/-- A path followed by the path a text reads as is the path read from both texts joined by a
dot. -/
theorem parse_render_dot_append {p q : FieldPath} {s : String} (h : parse s = .ok q) :
    parse (p.render ++ "." ++ s) = .ok (p.join q) := by
  rw [parse_eq_ok_iff, render_join, parse_eq_ok_iff.1 h]

/-- Joining is concatenation of parts. Joining two paths puts the parts of the second after
those of the first. Joining a path `p` with a non-empty text `s` fails exactly when reading `s`
fails, and then both fail with the same value error naming `s`; otherwise it adds the parts `s`
reads as, and gives the path read from the text of `p`, a dot and `s`. The empty text, which
reading refuses with a validation error, joins to `p` itself, while the text of `p` followed by
a lone dot is malformed. -/
theorem join_concatenates_parts :
    (∀ p q : FieldPath, (p.join q).parts = p.parts ++ q.parts) ∧
    (∀ (p : FieldPath) (s : String), s ≠ "" →
      ((∃ r, p.joinText s = .ok r) ↔ ∃ q, parse s = .ok q) ∧
      (∀ e, parse s = .error e →
        e = .malformed s ∧ p.joinText s = .error (.malformed s) ∧
          (PathError.malformed s).toError.kind = "ValueError" ∧
          (PathError.malformed s).toError.message = some ("Invalid field path: " ++ s)) ∧
      (∀ q, parse s = .ok q →
        p.joinText s = .ok (p.join q) ∧ (p.join q).parts = p.parts ++ q.parts ∧
          parse (p.render ++ "." ++ s) = .ok (p.join q))) ∧
    (∀ p : FieldPath, p.joinText "" = .ok p ∧
      parse "" = .error .empty ∧ PathError.empty.toError.kind = "ValidationError" ∧
      parse (p.render ++ ".") = .error (.malformed (p.render ++ "."))) := by
  refine ⟨join_parts, fun p s hs => ⟨?_, ?_, ?_⟩, fun p => ⟨joinText_empty p, parse_empty, rfl, ?_⟩⟩
  · constructor
    · -- a join that succeeds on a non-empty text had a path to add
      rintro ⟨r, hr⟩
      cases hq : parse s with
      | ok q => exact ⟨q, rfl⟩
      | error e => rw [joinText_of_parse_error hs hq] at hr; cases hr
    · rintro ⟨q, hq⟩
      exact ⟨_, joinText_of_parse_ok hq⟩
  · intro e he
    exact ⟨parse_error_of_ne_empty hs he, joinText_of_parse_error hs he, rfl, rfl⟩
  · intro q hq
    exact ⟨joinText_of_parse_ok hq, join_parts p q, parse_render_dot_append hq⟩
  · -- the text ends in a dot, so its last piece is empty
    apply parse_of_empty_piece (by simp)
    have hdot : ".".toList = ['.'] := by simp
    rw [String.toList_append, hdot, List.splitOn_append_cons_self]
    simp

/-- The path `a` joined with the empty text is `a` again, with no error, although the empty text
is no path and `a.` is malformed. -/
theorem join_empty_text_is_no_error :
    (⟨["a"], by simp, by simp [isPathPart, String.contains]⟩ : FieldPath).joinText "" =
        .ok ⟨["a"], by simp, by simp [isPathPart, String.contains]⟩ ∧
      parse "" = .error .empty ∧ parse "a." = .error (.malformed "a.") :=
  ⟨rfl, rfl, parse_of_empty_piece (by decide) (by decide)⟩

end FieldPath

end Ingest
