import Ingest.Proofs.Validation

/-!
# Options of checked processors

Conversion reads the options of a processor that validation checked, each with the reader of
the setting it becomes. This module says why those reads succeed: a checked value fits one of
the shapes its option declares (`Step.lookup_of_shapesOf`), and a value of a shape reads as the
reader of that shape expects it (`Setting.toBool_ok` and the others beside it).

Field paths are the one thing validation does not check: an option conversion reads as a path
holds a text that `FieldPath.parse` may refuse. `Step.Ready` is what conversion needs of a
processor, its options checked and its path texts paths, and the readers under `Step.Ready`
give each option's setting for a processor that is ready.
-/

namespace Ingest

theorem mapM_except_ok {α β ε : Type} {f : α → Except ε β} :
    ∀ {l : List α}, (∀ a ∈ l, ∃ b, f a = .ok b) → ∃ bs, l.mapM f = .ok bs
  | [], _ => ⟨[], rfl⟩
  | a :: l, h => by
    obtain ⟨b, hb⟩ := h a List.mem_cons_self
    obtain ⟨bs, hbs⟩ := mapM_except_ok fun x hx => h x (List.mem_cons_of_mem a hx)
    exact ⟨b :: bs, by simp [List.mapM_cons, hb, hbs]; rfl⟩

namespace Elastic


/-! ## What conversion reads -/

/-- The texts of a value: itself if it is a text, the texts among its items if it is a list. -/
def textsOf : Element → List String
  | .scalar (.str t) => [t]
  | .list items => items.filterMap Element.toText?
  | _ => []

namespace Kind

/-- The options of the kind whose texts conversion reads as field paths. -/
def pathKeys : Kind → List String
  | .append => ["field"]
  | .csv => ["field", "target_fields"]
  | .remove => ["field", "keep"]
  | .set => ["field", "copy_from"]
  | .bytes | .convert | .json | .lowercase | .sort | .split | .trim | .uppercase | .urlDecode
  | .uriParts | .userAgent => ["field", "target_field"]
  | _ => []

/-- The shapes the kind declares for the option `key`, if it has one. -/
def shapesOf (k : Kind) (key : String) : Option (List Shape) :=
  (k.options.find? (·.key == key)).map (·.shapes)

theorem shapesOf_common (k : Kind) :
    k.shapesOf "description" = some [.text, .nothing] ∧ k.shapesOf "if" = some [.text, .nothing] ∧
      k.shapesOf "ignore_failure" = some [.flag] ∧ k.shapesOf "tag" = some [.text, .nothing] := by
  cases k <;> decide

end Kind

namespace Step

/-- Every text that conversion reads as a field path is one. -/
def PathsValid (t : Step) : Prop :=
  ∀ key ∈ t.kind.pathKeys, ∀ x ∈ textsOf (t.value key), ∃ p, FieldPath.parse x = .ok p

/-- What conversion needs of a processor: its options as validation checked them, and field
paths where it reads them. -/
structure Ready (t : Step) : Prop where
  checked : t.kind.Checked t.values
  paths : t.PathsValid

end Step

/-! ## Values of checked shapes -/

namespace Shape

variable {v : Element}

@[simp] theorem fitFirst_nil : fitFirst [] v = none := rfl

@[simp] theorem fitFirst_cons (s : Shape) (ss : List Shape) :
    fitFirst (s :: ss) v = (s.fit v).or (fitFirst ss v) := by
  simp only [fitFirst, List.findSome?_cons]
  cases s.fit v <;> rfl

theorem fits_text (h : fitFirst [.text] v = some v) : ∃ t, v = .scalar (.str t) := by
  rcases v with ⟨_ | _ | _ | _ | t | _⟩ | _ | _ <;> simp [fit] at h ⊢

theorem fits_text_or_null (h : fitFirst [.text, .nothing] v = some v) :
    v = .scalar .null ∨ ∃ t, v = .scalar (.str t) := by
  rcases v with ⟨_ | _ | _ | _ | t | _⟩ | _ | _ <;> simp [fit] at h ⊢

theorem fits_flag (h : fitFirst [.flag] v = some v) : ∃ b, v = .scalar (.bool b) := by
  rcases v with ⟨_ | _ | _ | _ | t | _⟩ | _ | _ <;> simp [fit] at h ⊢

theorem fits_texts (h : fitFirst [.texts] v = some v) :
    ∃ items, v = .list items ∧ items.all isText := by
  rcases v with ⟨_ | _ | _ | _ | t | _⟩ | _ | _ <;> simp_all [fit]

theorem fits_letter (h : fitFirst [.letter] v = some v) :
    ∃ t, v = .scalar (.str t) ∧ t.length = 1 := by
  rcases v with ⟨_ | _ | _ | _ | t | _⟩ | _ | _ <;> simp_all [fit]

theorem fits_word {choices : List String} (h : fitFirst [.word choices] v = some v) :
    ∃ t, v = .scalar (.str t) ∧ t ∈ choices := by
  rcases v with ⟨_ | _ | _ | _ | t | _⟩ | _ | _ <;> simp_all [fit]

theorem fits_pattern (h : fitFirst [.pattern] v = some v) :
    ∃ t r, v = .scalar (.str t) ∧ Regex.Pattern.compile t = some r := by
  rcases v with ⟨_ | _ | _ | _ | t | _⟩ | _ | _ <;> simp_all [fit, Option.map_eq_some_iff]

theorem fits_text_texts_or_null (h : fitFirst [.text, .texts, .nothing] v = some v) :
    v = .scalar .null ∨ (∃ t, v = .scalar (.str t)) ∨
      ∃ items, v = .list items ∧ items.all isText := by
  rcases v with ⟨_ | _ | _ | _ | t | _⟩ | _ | _ <;> simp_all [fit]

end Shape

end Elastic

/-! ## Reading settings of checked shapes -/

namespace Setting

open Elastic Elastic.Shape

variable {v : Element}

theorem toBool_ok (h : fitFirst [.flag] v = some v) : ∃ b, toBool (.value v) = .ok b := by
  obtain ⟨b, rfl⟩ := fits_flag h
  exact ⟨b, rfl⟩

theorem toText_ok (h : fitFirst [.text] v = some v) : ∃ x, toText (.value v) = .ok x := by
  obtain ⟨x, rfl⟩ := fits_text h
  exact ⟨x, rfl⟩

theorem toText?_ok (h : fitFirst [.text, .nothing] v = some v) :
    ∃ x, toText? (.value v) = .ok x := by
  rcases fits_text_or_null h with rfl | ⟨x, rfl⟩
  · exact ⟨none, rfl⟩
  · exact ⟨some x, rfl⟩

theorem toChar_ok (h : fitFirst [.letter] v = some v) : ∃ c, toChar (.value v) = .ok c := by
  obtain ⟨x, rfl, hx⟩ := fits_letter h
  obtain ⟨c, hc⟩ := List.length_eq_one_iff.mp (String.length_toList.trans hx)
  exact ⟨c, by simp [toChar, hc]⟩

theorem toRegex_ok (h : fitFirst [.pattern] v = some v) : ∃ r, toRegex (.value v) = .ok r := by
  obtain ⟨x, r, rfl, hr⟩ := fits_pattern h
  exact ⟨r, by simp [toRegex, hr]⟩

theorem toChoice_ok {α : Type} {choices : List (String × α)}
    (h : fitFirst [.word (choices.map Prod.fst)] v = some v) :
    ∃ a, toChoice choices (.value v) = .ok a := by
  obtain ⟨x, rfl, hx⟩ := fits_word h
  obtain ⟨⟨y, a⟩, hmem, rfl⟩ := List.mem_map.mp hx
  have : (choices.lookup y).isSome := List.lookup_isSome_iff.mpr ⟨(y, a), hmem, by simp⟩
  obtain ⟨b, hb⟩ := Option.isSome_iff_exists.mp this
  exact ⟨b, by simp [toChoice, hb]⟩

theorem toTexts_ok (h : fitFirst [.texts] v = some v) : ∃ xs, toTexts (.value v) = .ok xs := by
  obtain ⟨items, rfl, hall⟩ := fits_texts h
  refine mapM_except_ok fun e he => ?_
  have : isText e = true := List.all_eq_true.mp hall e he
  rcases e with ⟨_ | _ | _ | _ | x | _⟩ | _ | _ <;> simp_all [isText, toText]

/-- A text that reads as a path is a path setting. -/
theorem toPath_ok (h : fitFirst [.text] v = some v)
    (hp : ∀ x ∈ textsOf v, ∃ p, FieldPath.parse x = .ok p) : ∃ p, toPath (.value v) = .ok p := by
  obtain ⟨x, rfl⟩ := fits_text h
  obtain ⟨p, hpx⟩ := hp x (by simp [textsOf])
  exact ⟨p, by simp [toPath, hpx, Except.mapError]⟩

theorem toPath?_ok (h : fitFirst [.text, .nothing] v = some v)
    (hp : ∀ x ∈ textsOf v, ∃ p, FieldPath.parse x = .ok p) :
    ∃ o, toPath? (.value v) = .ok o := by
  rcases fits_text_or_null h with rfl | ⟨x, rfl⟩
  · exact ⟨none, rfl⟩
  · obtain ⟨p, hpx⟩ := toPath_ok (by simp [fit]) hp
    exact ⟨some p, by simp [toPath?, hpx, Except.map]⟩

/-- A list of texts that each read as a path is a setting of paths. -/
theorem toPaths_ok (h : fitFirst [.texts] v = some v)
    (hp : ∀ x ∈ textsOf v, ∃ p, FieldPath.parse x = .ok p) : ∃ ps, toPaths (.value v) = .ok ps := by
  obtain ⟨items, rfl, hall⟩ := fits_texts h
  refine mapM_except_ok fun e he => ?_
  have : isText e = true := List.all_eq_true.mp hall e he
  rcases e with ⟨_ | _ | _ | _ | x | _⟩ | _ | _ <;> simp [isText] at this
  exact toPath_ok (by simp [fit]) fun y hy => hp y (by simp_all [textsOf, Element.toText?]; exact ⟨_, he, rfl⟩)

theorem toPath_of_parse {x : String} {p : FieldPath} (h : FieldPath.parse x = .ok p) :
    toPath (.value (.scalar (.str x))) = .ok p := by
  simp [toPath, h, Except.mapError]

theorem toPath?_of_parse {x : String} {p : FieldPath} (h : FieldPath.parse x = .ok p) :
    toPath? (.value (.scalar (.str x))) = .ok (some p) := by
  simp [toPath?, toPath_of_parse h, Except.map]

end Setting

namespace Elastic

theorem toValues_asList (v : Element) : ∃ items, Setting.toValues (.value (asList v)) = .ok items := by
  cases v <;> exact ⟨_, rfl⟩

/-- A text or a list of texts, not null, that reads as paths is a setting of paths as a list. -/
theorem toPaths_asList_ok {v : Element} (h : Shape.fitFirst [.text, .texts, .nothing] v = some v)
    (hnull : v ≠ .scalar .null) (hp : ∀ x ∈ textsOf v, ∃ p, FieldPath.parse x = .ok p) :
    ∃ ps, Setting.toPaths (.value (asList v)) = .ok ps := by
  rcases Shape.fits_text_texts_or_null h with rfl | ⟨x, rfl⟩ | ⟨items, rfl, hall⟩
  · exact absurd rfl hnull
  · obtain ⟨p, hpx⟩ := Setting.toPath_ok (by simp [Shape.fit]) hp
    exact ⟨[p], by simp [asList, Setting.toPaths, hpx]⟩
  · show ∃ ps, Setting.toPaths (.value (.list items)) = .ok ps
    exact Setting.toPaths_ok (by simp [Shape.fit, hall]) hp

/-! ## Readers of a ready processor -/

namespace Step

variable {t : Step} {key : String} {shapes : List Shape}

/-- A checked processor holds, under each option its kind declares, a value that fits the
option's shapes as it is. -/
theorem lookup_of_shapesOf (hc : t.kind.Checked t.values) (h : t.kind.shapesOf key = some shapes) :
    Entries.lookup key t.values = some (t.value key) ∧
      Shape.fitFirst shapes (t.value key) = some (t.value key) := by
  obtain ⟨d, hfind, rfl⟩ := Option.map_eq_some_iff.mp h
  have hkey : d.key = key := by simpa using List.find?_some hfind
  obtain ⟨v, hv, hfit⟩ := hc.lookup (List.mem_of_find?_eq_some hfind)
  rw [hkey] at hv
  simp [Step.value, hv, hfit]

namespace Ready

variable {k : Kind}

theorem fits (ht : t.Ready) (h : t.kind.shapesOf key = some shapes) :
    Shape.fitFirst shapes (t.value key) = some (t.value key) :=
  (lookup_of_shapesOf ht.checked h).2

/-- Of two exclusive options, exactly one is set. -/
theorem exclusive (ht : t.Ready) {a b : String} (hx : (a, b) ∈ t.kind.exclusive)
    (ha : (t.kind.shapesOf a).isSome) (hb : (t.kind.shapesOf b).isSome) :
    t.value a = .scalar .null ↔ t.value b ≠ .scalar .null := by
  obtain ⟨-, -, -, hone⟩ := ht.checked
  have := List.all_eq_true.mp hone (a, b) hx
  obtain ⟨sa, hsa⟩ := Option.isSome_iff_exists.mp ha
  obtain ⟨sb, hsb⟩ := Option.isSome_iff_exists.mp hb
  rw [setOne, (lookup_of_shapesOf ht.checked hsa).1, (lookup_of_shapesOf ht.checked hsb).1] at this
  by_cases hna : t.value a = .scalar .null <;> simp_all [isNull]

section

variable (ht : t.Ready) (hk : t.kind = k) (key : String)
include ht hk

theorem bool_ok (h : k.shapesOf key = some [.flag]) :
    ∃ b, Setting.toBool (t.setting key) = .ok b :=
  Setting.toBool_ok (ht.fits (hk ▸ h))

theorem text_ok (h : k.shapesOf key = some [.text]) :
    ∃ x, Setting.toText (t.setting key) = .ok x :=
  Setting.toText_ok (ht.fits (hk ▸ h))

theorem text?_ok (h : k.shapesOf key = some [.text, .nothing]) :
    ∃ x, Setting.toText? (t.setting key) = .ok x :=
  Setting.toText?_ok (ht.fits (hk ▸ h))

theorem char_ok (h : k.shapesOf key = some [.letter]) :
    ∃ c, Setting.toChar (t.setting key) = .ok c :=
  Setting.toChar_ok (ht.fits (hk ▸ h))

theorem regex_ok (h : k.shapesOf key = some [.pattern]) :
    ∃ r, Setting.toRegex (t.setting key) = .ok r :=
  Setting.toRegex_ok (ht.fits (hk ▸ h))

theorem texts_ok (h : k.shapesOf key = some [.texts]) :
    ∃ xs, Setting.toTexts (t.setting key) = .ok xs :=
  Setting.toTexts_ok (ht.fits (hk ▸ h))

theorem choice_ok {α : Type} (choices : List (String × α))
    (h : k.shapesOf key = some [.word (choices.map Prod.fst)]) :
    ∃ a, Setting.toChoice choices (t.setting key) = .ok a :=
  Setting.toChoice_ok (ht.fits (hk ▸ h))

theorem path_ok (h : k.shapesOf key = some [.text]) (hp : key ∈ k.pathKeys) :
    ∃ p, Setting.toPath (t.setting key) = .ok p :=
  Setting.toPath_ok (ht.fits (hk ▸ h)) (ht.paths key (hk ▸ hp))

theorem path?_ok (h : k.shapesOf key = some [.text, .nothing]) (hp : key ∈ k.pathKeys) :
    ∃ o, Setting.toPath? (t.setting key) = .ok o :=
  Setting.toPath?_ok (ht.fits (hk ▸ h)) (ht.paths key (hk ▸ hp))

/-- A text option read as an optional path: a text, so a path. -/
theorem path?_ok_of_text (h : k.shapesOf key = some [.text]) (hp : key ∈ k.pathKeys) :
    ∃ o, Setting.toPath? (t.setting key) = .ok o := by
  obtain ⟨x, hx⟩ := Shape.fits_text (ht.fits (hk ▸ h))
  refine Setting.toPath?_ok ?_ (ht.paths key (hk ▸ hp))
  rw [hx]
  rfl

/-- An optional text that is set, read as a path. -/
theorem path_ok_of_ne_null (h : k.shapesOf key = some [.text, .nothing]) (hp : key ∈ k.pathKeys)
    (hnull : t.value key ≠ .scalar .null) : ∃ p, Setting.toPath (t.setting key) = .ok p := by
  rcases Shape.fits_text_or_null (ht.fits (hk ▸ h)) with hx | ⟨x, hx⟩
  · exact absurd hx hnull
  · refine Setting.toPath_ok ?_ (ht.paths key (hk ▸ hp))
    rw [hx]
    rfl

theorem paths_ok (h : k.shapesOf key = some [.texts]) (hp : key ∈ k.pathKeys) :
    ∃ ps, Setting.toPaths (t.setting key) = .ok ps :=
  Setting.toPaths_ok (ht.fits (hk ▸ h)) (ht.paths key (hk ▸ hp))

/-- A text or list of texts that is set, read as paths. -/
theorem paths_asList_ok (h : k.shapesOf key = some [.text, .texts, .nothing])
    (hp : key ∈ k.pathKeys) (hnull : t.value key ≠ .scalar .null) :
    ∃ ps, Setting.toPaths (.value (asList (t.value key))) = .ok ps :=
  toPaths_asList_ok (ht.fits (hk ▸ h)) hnull (ht.paths key (hk ▸ hp))

end

end Ready

end Step

end Elastic

end Ingest
