import Mathlib.Data.List.Forall2
import Ingest.Elastic.Convert

/-!
# Validating ingest pipeline definitions

Validation reads each processor of a definition as the first kind of the registry whose name
is a key of the processor's dictionary and whose options check; it then writes each processor
back (`Step.dump`) under that name alone, leaving out the options equal to their defaults.

What validation accepts of a processor entry (`readStep_entry`): a dictionary that holds, under
the name of a kind of the registry, options that check against that kind, among them no option
the kind does not declare. The other keys of the entry play no part: the entry reads as it would
without them, and nothing of them is written back.

What validation writes is a normal form (`validate_output_is_normal_form`). Validating it again
accepts it and writes it back unchanged; it reads as the same processors as the definition it
came from, so it converts to the same processors; and the same holds of the failure processors
of a pipeline. The round trip rests on two facts: a value keeps the form its option's shapes
gave it when it is fitted again (`Shape.fitFirst_fitFirst`), and the options of a kind read back
from the options written, the defaults filling in what was left out (`Kind.readValues_changed`).
The kinds of the registry must have distinct names, as the names of a parser's table are; the
registries the library builds do (`Registry.standard_names_nodup`, `Registry.copy_names_nodup`).
-/

namespace Ingest

/-- A list is mapped into the option monad when each element maps to the element at its place. -/
theorem mapM_option_eq_some_iff {α β : Type} {f : α → Option β} {l : List α} {l' : List β} :
    l.mapM f = some l' ↔ List.Forall₂ (fun a b => f a = some b) l l' := by
  induction l generalizing l' with
  | nil => cases l' <;> simp
  | cons a l ih => cases h : f a <;> cases h' : l.mapM f <;> cases l' <;> simp [h, h', ← ih]

theorem mapM_option_exists_of_mem {α β : Type} {f : α → Option β} {l : List α} {l' : List β}
    (h : l.mapM f = some l') {a : α} (ha : a ∈ l) : ∃ b, f a = some b := by
  induction (mapM_option_eq_some_iff.mp h) with
  | nil => cases ha
  | @cons a' b l l' hab _ ih =>
    rcases List.mem_cons.mp ha with rfl | ha
    · exact ⟨b, hab⟩
    · exact ih (mapM_option_eq_some_iff.mpr ‹_›) ha

theorem findSome?_congr {α β : Type} {f g : α → Option β} :
    ∀ {l : List α}, (∀ x ∈ l, f x = g x) → l.findSome? f = l.findSome? g
  | [], _ => rfl
  | a :: l, h => by
    simp only [List.findSome?_cons, h a List.mem_cons_self,
      findSome?_congr fun x hx => h x (List.mem_cons_of_mem _ hx)]

theorem forall₂_exists_left {α β : Type} {R : α → β → Prop} {l : List α} {l' : List β}
    (h : List.Forall₂ R l l') {b : β} (hb : b ∈ l') : ∃ a ∈ l, R a b := by
  induction h with
  | nil => cases hb
  | @cons a b' l l' hab _ ih =>
    rcases List.mem_cons.mp hb with rfl | hb
    · exact ⟨a, List.mem_cons_self, hab⟩
    · obtain ⟨a', ha', h'⟩ := ih hb
      exact ⟨a', List.mem_cons_of_mem _ ha', h'⟩

/-! ## Elements and entries -/

namespace Entries

variable {α : Type}

theorem lookup_append (k : String) (a b : Entries α) :
    lookup k (a ++ b) = (lookup k a).or (lookup k b) := by
  induction a with
  | nil => rfl
  | cons p a ih =>
    obtain ⟨k', v⟩ := p
    by_cases h : k' = k <;> simp [lookup, h, ih]

theorem lookup_eq_none_of_forall {k : String} {es : Entries α} (h : ∀ p ∈ es, p.1 ≠ k) :
    lookup k es = none := by
  induction es with
  | nil => rfl
  | cons p es ih =>
    obtain ⟨k', v⟩ := p
    simp only [List.mem_cons, forall_eq_or_imp] at h
    simp [lookup, h.1, ih h.2]

theorem mem_of_lookup_eq_some {k : String} {v : α} :
    ∀ {es : Entries α}, lookup k es = some v → (k, v) ∈ es
  | [], h => by simp at h
  | (k', v') :: es, h => by
    by_cases hk : k' = k
    · subst hk
      simp only [lookup, if_pos, Option.some.injEq] at h
      simp [h]
    · simp only [lookup, if_neg hk] at h
      exact List.mem_cons_of_mem _ (mem_of_lookup_eq_some h)

/-- Dropping the entries whose keys are not among `keys` leaves the value of a key among them as
it was. -/
theorem lookup_filter_keys {k : String} {keys : List String} (hk : k ∈ keys) (es : Entries α) :
    lookup k (es.filter fun p => p.1 ∈ keys) = lookup k es := by
  induction es with
  | nil => rfl
  | cons p es ih =>
    obtain ⟨k', v⟩ := p
    by_cases hk' : k' ∈ keys
    · simp [hk', lookup, ih]
    · have hne : k' ≠ k := fun h => hk' (h ▸ hk)
      simp [hk', lookup, hne, ih]

theorem mem_keys_insert {k x : String} {v : α} {es : Entries α}
    (h : x ∈ (insert k v es).map Prod.fst) : x = k ∨ x ∈ es.map Prod.fst := by
  induction es with
  | nil => simp_all [insert]
  | cons p es ih =>
    obtain ⟨k', v'⟩ := p
    by_cases hk : k' = k
    · subst hk
      simp_all [insert]
    · simp only [insert, if_neg hk, List.map_cons, List.mem_cons] at h ⊢
      rcases h with h | h
      · exact .inr (.inl h)
      · rcases ih h with h | h
        · exact .inl h
        · exact .inr (.inr h)

/-- Binding a key keeps the keys distinct. -/
theorem insert_keys_nodup (k : String) (v : α) {es : Entries α} (h : (es.map Prod.fst).Nodup) :
    ((insert k v es).map Prod.fst).Nodup := by
  induction es with
  | nil => simp [insert]
  | cons p es ih =>
    obtain ⟨k', v'⟩ := p
    simp only [List.map_cons, List.nodup_cons] at h
    by_cases hk : k' = k
    · subst hk
      simpa [insert] using h
    · simp only [insert, if_neg hk, List.map_cons, List.nodup_cons]
      refine ⟨fun hmem => ?_, ih h.2⟩
      rcases mem_keys_insert hmem with h' | h'
      · exact hk h'
      · exact h.1 h'

end Entries

namespace Element

theorem depth_le_depthList {x : Element} : ∀ {items : List Element}, x ∈ items →
    x.depth ≤ depthList items
  | _ :: items, .head _ => by simp only [depthList, Nat.max_def]; split <;> omega
  | _ :: items, .tail _ h => by
    have := depth_le_depthList h
    simp only [depthList, Nat.max_def]
    split <;> omega

theorem depth_le_depthEntries {k : String} {x : Element} :
    ∀ {entries : List (String × Element)}, (k, x) ∈ entries → x.depth ≤ depthEntries entries
  | _ :: entries, .head _ => by simp only [depthEntries, Nat.max_def]; split <;> omega
  | (_, _) :: entries, .tail _ h => by
    have := depth_le_depthEntries h
    simp only [depthEntries, Nat.max_def]
    split <;> omega

/-- An element of a list lies less deep than the list. -/
theorem depth_lt_of_mem {x : Element} {items : List Element} (h : x ∈ items) :
    x.depth < (Element.list items).depth := by
  have := depth_le_depthList h
  simp only [depth]
  omega

/-- The value under a key of a dictionary lies less deep than the dictionary. -/
theorem depth_lt_of_lookup {k : String} {x : Element} {entries : List (String × Element)}
    (h : Entries.lookup k entries = some x) : x.depth < (Element.dict entries).depth := by
  have := depth_le_depthEntries (Entries.mem_of_lookup_eq_some h)
  simp only [depth]
  omega

end Element

namespace Elastic

/-! ## Shapes fit their own output -/

namespace Shape

/-- Fitting keeps a value as it is, except that `count` reads a text of digits as its
integer. -/
theorem fit_eq_self_or_int {s : Shape} {e e' : Element} (h : s.fit e = some e') :
    e' = e ∨ ∃ n, e' = .scalar (.int n) ∧ e.toInt? = some n := by
  unfold fit at h
  split at h <;> grind [Option.map_eq_some_iff]

/-- A shape that refuses a value refuses the integer the value reads as: only `count` takes an
integer other than as any value, and it reads a text of digits and its integer alike. -/
theorem fit_int_eq_none {s : Shape} {e : Element} {n : Int} (hn : e.toInt? = some n)
    (hs : s.fit e = none) : s.fit (.scalar (.int n)) = none := by
  cases s with
  | count low high =>
    -- `count` reads both through `toInt?`, where they agree
    rw [fit, hn] at hs
    rw [fit]
    exact hs
  | value => simp [fit] at hs
  | _ => rfl

/-- A shape that refuses a value refuses the form another shape gave it. -/
theorem fit_eq_none_of_fit {s t : Shape} {e e' : Element} (ht : t.fit e = some e')
    (hs : s.fit e = none) : s.fit e' = none := by
  rcases fit_eq_self_or_int ht with rfl | ⟨n, rfl, hn⟩
  · exact hs
  · exact fit_int_eq_none hn hs

/-- A value fits a shape as the form that shape gave it. -/
theorem fit_fit {s : Shape} {e e' : Element} (h : s.fit e = some e') : s.fit e' = some e' := by
  unfold fit at h
  split at h <;> grind [fit, Option.map_eq_some_iff, Element.toInt?]

/-- The value an option holds fits the option's shapes again as itself: the shapes before the
one that took it still refuse it, and that one takes it unchanged. -/
theorem fitFirst_fitFirst {shapes : List Shape} {e e' : Element} (h : fitFirst shapes e = some e') :
    fitFirst shapes e' = some e' := by
  obtain ⟨l₁, t, l₂, rfl, ht, hbefore⟩ := List.findSome?_eq_some_iff.mp h
  exact List.findSome?_eq_some_iff.mpr
    ⟨l₁, t, l₂, rfl, fit_fit ht, fun s hs => fit_eq_none_of_fit ht (hbefore s hs)⟩

end Shape

/-! ## Checked options -/

/-- Whether exactly one option of a pair is set, not null. -/
def setOne (values : List (String × Element)) (pair : String × String) : Bool :=
  isNull (Entries.lookup pair.1 values) != isNull (Entries.lookup pair.2 values)

namespace Declaration

/-- The value validation gives an option from the options `entries`: the value given there in
the form of the first of the option's shapes that fits it, or else the default. -/
def read (entries : List (String × Element)) (d : Declaration) : Option (String × Element) :=
  match Entries.lookup d.key entries with
  | some e => (Shape.fitFirst d.shapes e).map (d.key, ·)
  | none => d.default.map (d.key, ·)

theorem key_of_read {entries : List (String × Element)} {d : Declaration} {p : String × Element}
    (h : d.read entries = some p) : p.1 = d.key := by
  unfold read at h
  split at h <;> obtain ⟨v, -, rfl⟩ := Option.map_eq_some_iff.mp h <;> rfl

/-- Among declarations with distinct keys, the value of a declaration is found under its key. -/
theorem lookup_map_key {ds : List Declaration} (value : Declaration → Element)
    (hn : (ds.map (·.key)).Nodup) {d : Declaration} (hd : d ∈ ds) :
    Entries.lookup d.key (ds.map fun d => (d.key, value d)) = some (value d) := by
  induction ds with
  | nil => cases hd
  | cons d' ds ih =>
    simp only [List.map_cons, List.nodup_cons, List.mem_map, not_exists, not_and] at hn
    rcases List.mem_cons.mp hd with rfl | hd
    · simp [Entries.lookup]
    · have hne : d'.key ≠ d.key := fun h => hn.1 d hd h.symm
      simp [Entries.lookup, hne, ih hn.2 hd]

/-- Among declarations with distinct keys, what is kept of a declaration under its key is
found there. -/
theorem lookup_filterMap_key {ds : List Declaration} {F : Declaration → Option (String × Element)}
    (hF : ∀ d p, F d = some p → p.1 = d.key) (hn : (ds.map (·.key)).Nodup) {d : Declaration}
    (hd : d ∈ ds) : Entries.lookup d.key (ds.filterMap F) = (F d).map Prod.snd := by
  induction ds with
  | nil => cases hd
  | cons d' ds ih =>
    simp only [List.map_cons, List.nodup_cons, List.mem_map, not_exists, not_and] at hn
    rcases List.mem_cons.mp hd with rfl | hd
    · cases hFd : F d with
      | none =>
        simp only [List.filterMap_cons, hFd, Option.map_none]
        exact Entries.lookup_eq_none_of_forall fun p hp => by
          obtain ⟨d'', hd'', hp⟩ := List.mem_filterMap.mp hp
          rw [hF d'' p hp]
          exact fun h => hn.1 d'' hd'' h
      | some p =>
        obtain ⟨k, v⟩ := p
        have hk : k = d.key := hF d _ hFd
        subst hk
        simp [hFd, Entries.lookup]
    · have hne : d'.key ≠ d.key := fun h => hn.1 d hd h.symm
      cases hFd' : F d' with
      | none => simp [hFd', ih hn.2 hd]
      | some p =>
        have hk : p.1 ≠ d.key := by rw [hF d' p hFd']; exact hne
        simp [hFd', Entries.lookup, hk, ih hn.2 hd]

end Declaration

namespace Kind

/-- The options of a kind have distinct keys. -/
theorem options_keys_nodup (k : Kind) : (k.options.map (·.key)).Nodup := by
  cases k <;> decide

/-- No option of a kind is keyed as the failure processors. -/
theorem failureKey_not_mem_keys (k : Kind) : failureKey ∉ k.options.map (·.key) := by
  cases k <;> decide

/-- Every default passes the check of its own option. -/
theorem default_fits (k : Kind) {d : Declaration} (hd : d ∈ k.options) {v : Element}
    (hv : d.default = some v) : Shape.fitFirst d.shapes v = some v := by
  have hall : ∀ d ∈ k.options, (d.default.all fun v => Shape.fitFirst d.shapes v == some v) = true := by
    cases k <;> decide
  simpa [hv] using hall d hd

/-- Whether every key of `entries` is an option of the kind or the failure processors. -/
def knowsKeys (k : Kind) (entries : List (String × Element)) : Bool :=
  entries.all fun (key, _) => key == failureKey || k.options.any (·.key == key)

theorem readValues_eq (k : Kind) (entries : List (String × Element)) :
    k.readValues entries =
      if k.knowsKeys entries then
        (k.options.mapM (Declaration.read entries)).bind fun values =>
          if k.exclusive.all (setOne values) then some values else none
      else none := by
  unfold readValues
  cases h : k.knowsKeys entries <;> simp only [knowsKeys] at h <;> simp only [h] <;> rfl

/-- The values of a kind's options as validation leaves them: the value of each option under its
key, in declaration order, in a form the option's shapes take as it is, with exactly one option
of each exclusive pair set. -/
def Checked (k : Kind) (values : List (String × Element)) : Prop :=
  ∃ value : Declaration → Element, values = k.options.map (fun d => (d.key, value d)) ∧
    (∀ d ∈ k.options, Shape.fitFirst d.shapes (value d) = some (value d)) ∧
    k.exclusive.all (setOne values) = true

/-- A value read for an option is in a form its shapes take as it is: a value given is fitted,
and a default passes its own check. -/
theorem fitFirst_of_read {k : Kind} {entries : List (String × Element)} {d : Declaration}
    (hd : d ∈ k.options) {p : String × Element} (h : d.read entries = some p) :
    Shape.fitFirst d.shapes p.2 = some p.2 := by
  unfold Declaration.read at h
  split at h <;> obtain ⟨v, hv, rfl⟩ := Option.map_eq_some_iff.mp h
  · exact Shape.fitFirst_fitFirst hv
  · exact k.default_fits hd hv

/-- Options read one by one are their keys with the values read. -/
theorem eq_map_of_forall₂_read {entries : List (String × Element)} {ds : List Declaration}
    {vs : List (String × Element)} (h : List.Forall₂ (fun d p => d.read entries = some p) ds vs) :
    vs = ds.map fun d => (d.key, ((d.read entries).map Prod.snd).getD (.scalar .null)) := by
  induction h with
  | nil => rfl
  | @cons d p ds vs hdp _ ih =>
    obtain ⟨k', v⟩ := p
    have hk : k' = d.key := Declaration.key_of_read hdp
    subst hk
    simp [hdp, ih]

/-- What validation reads for a kind's options is checked. -/
theorem readValues_checked {k : Kind} {entries values : List (String × Element)}
    (h : k.readValues entries = some values) : k.Checked values := by
  rw [readValues_eq] at h
  split at h
  · obtain ⟨vs, hvs, hone⟩ := Option.bind_eq_some_iff.mp h
    split at hone
    · cases hone
      refine ⟨fun d => ((d.read entries).map Prod.snd).getD (.scalar .null),
        eq_map_of_forall₂_read (mapM_option_eq_some_iff.mp hvs), fun d hd => ?_, ‹_›⟩
      obtain ⟨p, hp⟩ := mapM_option_exists_of_mem hvs hd
      simpa [hp] using fitFirst_of_read hd hp
    · cases hone
  · cases h

/-- A checked value is found under its option's key. -/
theorem Checked.lookup {k : Kind} {values : List (String × Element)} (hc : k.Checked values)
    {d : Declaration} (hd : d ∈ k.options) :
    ∃ v, Entries.lookup d.key values = some v ∧ Shape.fitFirst d.shapes v = some v := by
  obtain ⟨value, rfl, hfit, -⟩ := hc
  exact ⟨value d, Declaration.lookup_map_key value k.options_keys_nodup hd, hfit d hd⟩

/-- What is written of an option: its value under its key, unless the value is the default. -/
def changedOption (values : List (String × Element)) (d : Declaration) : Option (String × Element) :=
  (Entries.lookup d.key values).bind fun v => if d.default == some v then none else some (d.key, v)

theorem changed_eq (k : Kind) (values : List (String × Element)) :
    Step.changed k values = k.options.filterMap (changedOption values) := by
  unfold Step.changed changedOption
  congr
  funext d
  cases Entries.lookup d.key values <;> rfl

theorem key_of_changedOption {values : List (String × Element)} {d : Declaration}
    {p : String × Element} (h : changedOption values d = some p) : p.1 = d.key := by
  obtain ⟨v, -, hv⟩ := Option.bind_eq_some_iff.mp h
  split at hv
  · cases hv
  · cases hv; rfl

/-- The options of a kind written back, with the failure processors after them, read as the
values they were written from: an option left out as equal to its default reads as that
default. -/
theorem readValues_changed {k : Kind} {values : List (String × Element)} (hc : k.Checked values)
    {extra : List (String × Element)} (hextra : ∀ p ∈ extra, p.1 = failureKey) :
    k.readValues (Step.changed k values ++ extra) = some values := by
  obtain ⟨value, rfl, hfit, hone⟩ := hc
  have hn := k.options_keys_nodup
  -- an option is written with its value, unless that is its default
  have hwritten : ∀ d ∈ k.options,
      Entries.lookup d.key (Step.changed k (k.options.map fun d => (d.key, value d)) ++ extra) =
        if d.default = some (value d) then none else some (value d) := by
    intro d hd
    have hext : Entries.lookup d.key extra = none :=
      Entries.lookup_eq_none_of_forall fun p hp hkey =>
        k.failureKey_not_mem_keys (by rw [← hextra p hp, hkey]; exact List.mem_map_of_mem hd)
    rw [Entries.lookup_append, hext, Option.or_none, changed_eq,
      Declaration.lookup_filterMap_key (fun _ _ => key_of_changedOption) hn hd, changedOption,
      Declaration.lookup_map_key value hn hd]
    by_cases hdef : d.default = some (value d) <;> simp [hdef]
  have hread : ∀ d ∈ k.options,
      d.read (Step.changed k (k.options.map fun d => (d.key, value d)) ++ extra) =
        some (d.key, value d) := by
    intro d hd
    unfold Declaration.read
    rw [hwritten d hd]
    by_cases hdef : d.default = some (value d)
    · simp [hdef]
    · simp [hdef, hfit d hd]
  have hknown : k.knowsKeys (Step.changed k (k.options.map fun d => (d.key, value d)) ++ extra) := by
    simp only [knowsKeys, List.all_append, Bool.and_eq_true, List.all_eq_true]
    constructor
    · rintro ⟨key, v⟩ hp
      obtain ⟨d, hd, hdp⟩ := List.mem_filterMap.mp (changed_eq k _ ▸ hp)
      have hkey : key = d.key := key_of_changedOption hdp
      simp only [hkey, Bool.or_eq_true, List.any_eq_true, beq_iff_eq]
      exact .inr ⟨d, hd, rfl⟩
    · rintro ⟨key, v⟩ hp
      have hkey : key = failureKey := hextra _ hp
      simp [hkey]
  rw [readValues_eq, if_pos hknown,
    mapM_option_eq_some_iff.mpr (List.forall₂_map_right_iff.mpr (List.forall₂_same.mpr hread))]
  simp [hone]

end Kind

/-! ## Reading processors -/

namespace Step

/-- The failure processors of a processor as written inside it: under their key when given. -/
def failureEntries : Option (List Step) → List (String × Element)
  | some steps => [(failureKey, .list (dumpList steps))]
  | none => []

theorem dump_mk (name : String) (kind : Kind) (values : List (String × Element))
    (onFailure : Option (List Step)) :
    dump (.mk name kind values onFailure) =
      .dict [(name, .dict (changed kind values ++ failureEntries onFailure))] := by
  rw [dump.eq_def]
  cases onFailure <;> rfl

theorem dumpList_eq_map : ∀ ss : List Step, dumpList ss = ss.map dump
  | [] => by rw [dumpList]; rfl
  | s :: ss => by rw [dumpList, dumpList_eq_map ss]; rfl

/-- No option written back is keyed as the failure processors. -/
theorem lookup_failureKey_changed (k : Kind) (values : List (String × Element)) :
    Entries.lookup failureKey (changed k values) = none := by
  refine Entries.lookup_eq_none_of_forall fun p hp hkey => k.failureKey_not_mem_keys ?_
  obtain ⟨d, hd, hdp⟩ := List.mem_filterMap.mp (Kind.changed_eq k values ▸ hp)
  rw [← hkey, Kind.key_of_changedOption hdp]
  exact List.mem_map_of_mem hd

end Step

namespace Registry

variable (r : Registry)

/-- The failure processors among a processor's options, as validation reads them: none when
absent or null, else a list of processors. -/
def readFailure (fuel : Nat) (options : List (String × Element)) : Option (Option (List Step)) :=
  match Entries.lookup failureKey options with
  | none | some (.scalar .null) => some none
  | some v => (r.readSteps fuel v).map some

/-- A processor read from the dictionary `entries` as the kind of the registry under its name:
the options under that name, checked against the kind, with their failure processors. -/
def readEntry (fuel : Nat) (entries : List (String × Element)) : String × Kind → Option Step
  | (name, kind) =>
    match Entries.lookup name entries with
    | some (.dict options) => do
      let values ← kind.readValues options
      let onFailure ← match Entries.lookup failureKey options with
        | none | some (.scalar .null) => some none
        | some v => (r.readSteps fuel v).map some
      some (.mk name kind values onFailure)
    | _ => none

/-- A processor is read as the first kind of the registry it can be read as. -/
theorem readStep_succ_dict (fuel : Nat) (entries : List (String × Element)) :
    r.readStep (fuel + 1) (.dict entries) = r.kinds.findSome? (r.readEntry fuel entries) := by
  rw [readStep]
  rfl

theorem readEntry_eq (fuel : Nat) (entries : List (String × Element)) (name : String)
    (kind : Kind) :
    r.readEntry fuel entries (name, kind) =
      match Entries.lookup name entries with
      | some (.dict options) =>
        (kind.readValues options).bind fun values =>
          (r.readFailure fuel options).map fun onFailure => .mk name kind values onFailure
      | _ => none := by
  simp only [readEntry, readFailure]
  split
  · cases kind.readValues _ with
    | none => rfl
    | some values =>
      simp only [Option.bind_eq_bind, Option.bind_some]
      split
      · rfl
      · rfl
      · rename_i v _ _
        cases r.readSteps fuel v <;> rfl
  · rfl

theorem readEntry_eq_some_iff {fuel : Nat} {entries : List (String × Element)} {name : String}
    {kind : Kind} {s : Step} :
    r.readEntry fuel entries (name, kind) = some s ↔
      ∃ options values onFailure, Entries.lookup name entries = some (.dict options) ∧
        kind.readValues options = some values ∧ r.readFailure fuel options = some onFailure ∧
        s = .mk name kind values onFailure := by
  rw [readEntry_eq]
  split
  · rename_i options hl
    constructor
    · intro h
      obtain ⟨values, hv, h⟩ := Option.bind_eq_some_iff.mp h
      obtain ⟨onFailure, ho, rfl⟩ := Option.map_eq_some_iff.mp h
      exact ⟨options, values, onFailure, hl, hv, ho, rfl⟩
    · rintro ⟨options', values, onFailure, hl', hv, ho, rfl⟩
      rw [hl] at hl'
      cases hl'
      simp [hv, ho]
  · rename_i hne
    simp only [reduceCtorEq, false_iff, not_exists, not_and]
    exact fun options _ _ hl _ _ _ => hne options hl

theorem readEntry_eq_none {fuel : Nat} {entries : List (String × Element)} {nk : String × Kind}
    (h : Entries.lookup nk.1 entries = none) : r.readEntry fuel entries nk = none := by
  obtain ⟨name, kind⟩ := nk
  simp only at h
  simp [readEntry, h]

/-- What a processor read from an element is: the element is a dictionary, and the processor is
read as the first kind of the registry it can be read as. -/
theorem readStep_eq_some {fuel : Nat} {e : Element} {s : Step} (h : r.readStep fuel e = some s) :
    ∃ fuel' entries l₁ l₂, fuel = fuel' + 1 ∧ e = .dict entries ∧
      r.kinds = l₁ ++ (s.name, s.kind) :: l₂ ∧ (∀ x ∈ l₁, r.readEntry fuel' entries x = none) ∧
      r.readEntry fuel' entries (s.name, s.kind) = some s := by
  match fuel, e, h with
  | fuel' + 1, .dict entries, h =>
    rw [readStep_succ_dict] at h
    obtain ⟨l₁, ⟨name, kind⟩, l₂, hk, hs, hbefore⟩ := List.findSome?_eq_some_iff.mp h
    obtain ⟨options, values, onFailure, -, -, -, rfl⟩ := (r.readEntry_eq_some_iff).mp hs
    exact ⟨fuel', entries, l₁, l₂, rfl, rfl, hk, hbefore, hs⟩
  | 0, _, h => simp [readStep] at h
  | _ + 1, .scalar _, h => simp [readStep] at h
  | _ + 1, .list _, h => simp [readStep] at h

/-- What a list of processors read from an element is: the element is a list, and each of its
items is read as a processor. -/
theorem readSteps_eq_some {fuel : Nat} {e : Element} {ss : List Step}
    (h : r.readSteps fuel e = some ss) :
    ∃ fuel' items, fuel = fuel' + 1 ∧ e = .list items ∧
      List.Forall₂ (fun item s => r.readStep fuel' item = some s) items ss := by
  match fuel, e, h with
  | fuel' + 1, .list items, h =>
    rw [readSteps] at h
    exact ⟨fuel', items, rfl, rfl, mapM_option_eq_some_iff.mp h⟩
  | 0, _, h => simp [readSteps] at h
  | _ + 1, .scalar _, h => simp [readSteps] at h
  | _ + 1, .dict _, h => simp [readSteps] at h

/-! ## What an entry must be -/

/-- An entry reads as it would without its keys that name no kind of the registry. -/
theorem readStep_filter_names (fuel : Nat) (entries : List (String × Element)) :
    r.readStep fuel (.dict (entries.filter fun p => p.1 ∈ r.kinds.map Prod.fst)) =
      r.readStep fuel (.dict entries) := by
  cases fuel with
  | zero => rfl
  | succ fuel =>
    rw [readStep_succ_dict, readStep_succ_dict]
    refine findSome?_congr fun nk hnk => ?_
    obtain ⟨name, kind⟩ := nk
    have hname : name ∈ r.kinds.map Prod.fst := List.mem_map_of_mem (f := Prod.fst) hnk
    rw [readEntry_eq, readEntry_eq, Entries.lookup_filter_keys hname]

/-- What validation accepts of a processor entry: a dictionary that holds, under the name of a
kind of the registry, options that check against that kind, none of them an option the kind does
not declare. The entry reads as it would without its keys that name no kind, and what is written
of it has the name alone as its key. -/
theorem readStep_entry {fuel : Nat} {e : Element} {s : Step} (h : r.readStep fuel e = some s) :
    ∃ entries options, e = .dict entries ∧ (s.name, s.kind) ∈ r.kinds ∧
      Entries.lookup s.name entries = some (.dict options) ∧
      s.kind.readValues options = some s.values ∧
      (∀ p ∈ options, p.1 = failureKey ∨ p.1 ∈ s.kind.options.map (·.key)) ∧
      r.readStep fuel (.dict (entries.filter fun p => p.1 ∈ r.kinds.map Prod.fst)) = some s ∧
      Step.dump s =
        .dict [(s.name, .dict (Step.changed s.kind s.values ++ Step.failureEntries s.onFailure))] := by
  obtain ⟨fuel', entries, l₁, l₂, rfl, rfl, hk, -, hs⟩ := r.readStep_eq_some h
  rcases s with ⟨name, kind, values, onFailure⟩
  obtain ⟨options, values', onFailure', hl, hv, -, hs'⟩ := r.readEntry_eq_some_iff.mp hs
  simp only [Step.name, Step.kind, Step.values, Step.onFailure, Step.mk.injEq, true_and]
    at hk hl hv hs' ⊢
  obtain ⟨rfl, rfl⟩ := hs'
  refine ⟨entries, options, rfl, hk ▸ List.mem_append_right _ List.mem_cons_self, hl, hv,
    fun p hp => ?_, (r.readStep_filter_names _ _).trans h, Step.dump_mk _ _ _ _⟩
  -- the options were read, so every key among them is known to the kind
  rw [Kind.readValues_eq] at hv
  split at hv
  · rename_i hknown
    have := List.all_eq_true.mp hknown p hp
    simp only [Bool.or_eq_true, beq_iff_eq, List.any_eq_true] at this
    rcases this with h | ⟨d, hd, hkey⟩
    · exact .inl h
    · exact .inr (hkey ▸ List.mem_map_of_mem hd)
  · cases hv

/-- An entry with a comment beside its set processor is read as the set processor alone. -/
theorem readStep_set_beside_comment :
    let e : Element := .dict [("comment", .scalar (.str "x")),
      ("set", .dict [("field", .scalar (.str "a")), ("value", .scalar (.str "v"))])]
    ∃ s, Registry.standard.readStep 1 e = some s ∧
      ∃ entries options, e = .dict entries ∧ (s.name, s.kind) ∈ Registry.standard.kinds ∧
        Entries.lookup s.name entries = some (.dict options) ∧
        s.kind.readValues options = some s.values ∧
        (∀ p ∈ options, p.1 = failureKey ∨ p.1 ∈ s.kind.options.map (·.key)) ∧
        Registry.standard.readStep 1
          (.dict (entries.filter fun p => p.1 ∈ Registry.standard.kinds.map Prod.fst)) = some s ∧
        Step.dump s = .dict [(s.name,
          .dict (Step.changed s.kind s.values ++ Step.failureEntries s.onFailure))] :=
  ⟨_, rfl, Registry.standard.readStep_entry rfl⟩

theorem readFailure_eq_some_some {fuel : Nat} {options : List (String × Element)}
    {steps : List Step} (h : r.readFailure fuel options = some (some steps)) :
    ∃ v, r.readSteps fuel v = some steps := by
  unfold readFailure at h
  split at h
  · cases h
  · cases h
  · obtain ⟨_, hv, hs⟩ := Option.map_eq_some_iff.mp h
    cases hs
    exact ⟨_, hv⟩

/-! ## Writing back and reading again -/

/-- The failure processors written back are read as those they were written from. -/
theorem readFailure_dump {m : Nat} (k : Kind) (values : List (String × Element))
    (onFailure : Option (List Step))
    (hsteps : ∀ steps, onFailure = some steps →
      r.readSteps m (.list (Step.dumpList steps)) = some steps) :
    r.readFailure m (Step.changed k values ++ Step.failureEntries onFailure) = some onFailure := by
  cases onFailure with
  | none => simp [readFailure, Step.failureEntries, Step.lookup_failureKey_changed]
  | some steps =>
    simp [readFailure, Step.failureEntries, Entries.lookup_append, Step.lookup_failureKey_changed,
      Entries.lookup, hsteps steps rfl]

/-- The failure processors written inside a processor lie two levels below it. -/
theorem depth_dumpList_failure (name : String) (kind : Kind) (values : List (String × Element))
    (steps : List Step) :
    (Element.list (Step.dumpList steps)).depth + 1 <
      (Step.dump (.mk name kind values (some steps))).depth := by
  let options : List (String × Element) :=
    Step.changed kind values ++ [(failureKey, .list (Step.dumpList steps))]
  have hdump : Step.dump (.mk name kind values (some steps)) = .dict [(name, .dict options)] := by
    rw [Step.dump_mk]
    rfl
  have hinner : (Element.list (Step.dumpList steps)).depth < (Element.dict options).depth :=
    Element.depth_lt_of_lookup (k := failureKey)
      (by simp [options, Entries.lookup_append, Step.lookup_failureKey_changed, Entries.lookup])
  have houter : (Element.dict options).depth < (Element.dict [(name, .dict options)]).depth :=
    Element.depth_lt_of_lookup (k := name) (by simp [Entries.lookup])
  rw [hdump]
  exact Nat.lt_of_le_of_lt hinner houter

variable {r}

/-- Processors validation read, written back, read again as themselves, with any fuel above the
depth of what was written. The induction is on that fuel; a processor written under its name
holds no other key, so with distinct names no kind before its own can take it. -/
theorem read_dump (hr : (r.kinds.map Prod.fst).Nodup) : ∀ m,
    (∀ f e s, r.readStep f e = some s → (Step.dump s).depth < m →
      r.readStep m (Step.dump s) = some s) ∧
    (∀ f e ss, r.readSteps f e = some ss → (Element.list (Step.dumpList ss)).depth < m →
      r.readSteps m (.list (Step.dumpList ss)) = some ss)
  | 0 => ⟨fun _ _ _ _ h => absurd h (Nat.not_lt_zero _),
      fun _ _ _ _ h => absurd h (Nat.not_lt_zero _)⟩
  | m + 1 => by
    obtain ⟨ihStep, ihSteps⟩ := read_dump hr m
    constructor
    · intro f e s h hdepth
      obtain ⟨f', entries, l₁, l₂, rfl, rfl, hk, -, hs⟩ := r.readStep_eq_some h
      rcases s with ⟨name, kind, values, onFailure⟩
      obtain ⟨options, values', onFailure', -, hv, ho, hs'⟩ := r.readEntry_eq_some_iff.mp hs
      simp only [Step.name, Step.kind, Step.mk.injEq, true_and] at hk hv hs'
      obtain ⟨rfl, rfl⟩ := hs'
      rw [Step.dump_mk, readStep_succ_dict]
      refine List.findSome?_eq_some_iff.mpr ⟨l₁, (name, kind), l₂, hk, ?_, ?_⟩
      · refine r.readEntry_eq_some_iff.mpr ⟨Step.changed kind values ++ Step.failureEntries onFailure,
          values, onFailure, by simp [Entries.lookup],
          Kind.readValues_changed (Kind.readValues_checked hv) ?_, ?_, rfl⟩
        · cases onFailure <;> simp [Step.failureEntries]
        · refine r.readFailure_dump kind values onFailure fun steps hsteps => ?_
          subst hsteps
          obtain ⟨v, hv'⟩ := r.readFailure_eq_some_some ho
          have := depth_dumpList_failure name kind values steps
          exact ihSteps f' v steps hv' (by omega)
      · -- the kinds before this one have other names, absent from what was written
        intro x hx
        apply r.readEntry_eq_none
        have hname : x.1 ≠ name := by
          rw [hk, List.map_append, List.nodup_append] at hr
          exact fun h => hr.2.2 _ (List.mem_map_of_mem hx) _ (List.mem_cons_self) h
        simp [Entries.lookup, Ne.symm hname]
    · intro f e ss h hdepth
      obtain ⟨f', items, rfl, rfl, hf⟩ := r.readSteps_eq_some h
      rw [readSteps, Step.dumpList_eq_map]
      refine mapM_option_eq_some_iff.mpr
        (List.forall₂_map_left_iff.mpr (List.forall₂_same.mpr fun s hs => ?_))
      obtain ⟨item, -, hitem⟩ := forall₂_exists_left hf hs
      have := Element.depth_lt_of_mem (List.mem_map_of_mem (f := Step.dump) hs)
      rw [← Step.dumpList_eq_map] at this
      exact ihStep f' item s hitem (by omega)

variable (r)

theorem readListAt_read {fuel : Nat} {entries : List (String × Element)} {key : String}
    {ss : List Step} (h : r.readListAt fuel entries key = some ss) :
    ∃ f e, r.readSteps f e = some ss := by
  unfold readListAt at h
  split at h
  · exact ⟨fuel, _, h⟩
  · cases h
    exact ⟨1, .list [], rfl⟩

/-- A definition validation accepted was read from an element. -/
theorem readRaw_eq_ok {raw : Element} {d : Definition} (h : r.readRaw raw = .ok d) :
    ∃ e, r.read e = some d := by
  delta readRaw at h
  split at h <;>
  · dsimp only at h
    split at h
    · rename_i d' hb
      cases h
      obtain ⟨e, -, he⟩ := Option.bind_eq_some_iff.mp hb
      exact ⟨e, he⟩
    · cases h

/-- The processors and the failure processors of a definition validation accepted were each
read as a list of processors. -/
theorem readRaw_lists {raw : Element} {d : Definition} (h : r.readRaw raw = .ok d) :
    (∃ f e, r.readSteps f e = some d.processors) ∧
      ∃ f e, r.readSteps f e = some d.failureProcessors := by
  obtain ⟨e, hread⟩ := r.readRaw_eq_ok h
  unfold read at hread
  split at hread
  · -- a pipeline: its name, then its two lists
    dsimp only at hread
    split at hread
    · simp only [Option.bind_eq_bind, Option.bind_some, Option.bind_eq_some_iff] at hread
      obtain ⟨ps, hps, fs, hfs, hread⟩ := hread
      cases hread
      exact ⟨r.readListAt_read hps, r.readListAt_read hfs⟩
    · simp at hread
  · obtain ⟨ss, hss, rfl⟩ := Option.map_eq_some_iff.mp hread
    exact ⟨⟨_, _, hss⟩, ⟨_, _, hss⟩⟩
  · cases hread

variable {r}

/-- A list of processors validation read, written back, reads as a definition of exactly those
processors. -/
theorem readRaw_dumpList (hr : (r.kinds.map Prod.fst).Nodup) {f : Nat} {e : Element}
    {ss : List Step} (h : r.readSteps f e = some ss) :
    r.readRaw (.list (Step.dumpList ss)) = .ok (.steps ss) := by
  have hread := (read_dump hr _).2 f e ss h (Nat.lt_succ_self _)
  delta readRaw
  simp [read, hread]

end Registry

/-! ## The registries of the library -/

/-- The kinds of the standard registry have distinct names. -/
theorem Registry.standard_names_nodup : (Registry.standard.kinds.map Prod.fst).Nodup := by
  decide

/-- A copy of a registry with distinct names, some kinds removed and others added or replaced,
has distinct names. -/
theorem Registry.copy_names_nodup {r : Registry} (hr : (r.kinds.map Prod.fst).Nodup)
    (added : List (String × Kind)) (removed : List String) :
    ((r.copy added removed).kinds.map Prod.fst).Nodup := by
  unfold Registry.copy
  -- removing names keeps them distinct; each kind added is a binding of its name
  have hkept : ((r.kinds.filter fun (n, _) => !removed.contains n).map Prod.fst).Nodup :=
    (List.filter_sublist.map Prod.fst).nodup hr
  generalize r.kinds.filter (fun (n, _) => !removed.contains n) = kept at hkept
  induction added generalizing kept with
  | nil => exact hkept
  | cons nk added ih =>
    obtain ⟨n, k⟩ := nk
    exact ih _ (Entries.insert_keys_nodup n k hkept)

theorem Definition.toPipeline_processors (d : Definition) :
    d.toPipeline.map Pipeline.processors = Step.convertList d.processors := by
  unfold Definition.toPipeline
  cases Step.convertList d.processors <;> rfl

/-- A definition given as an element converts to the processors of the definition read from it. -/
theorem Registry.parse_processors {r : Registry} {raw : Element} {d : Definition}
    (h : r.readRaw raw = .ok d) :
    (r.parse raw).map Pipeline.processors = Step.convertList d.processors := by
  rw [← Definition.toPipeline_processors]
  simp [Registry.parse, h, bind, Except.bind]

/-- What validation writes is a normal form. Validating it again accepts it and writes it back
unchanged; it reads as the same processors as the definition it came from, and so converts to
the same processors; and the failure processors of a pipeline, validated and written, are a
normal form in the same way. The names of the registry's kinds are distinct, as the keys of a
parser's table are. -/
theorem validate_output_is_normal_form {r : Registry} (hr : (r.kinds.map Prod.fst).Nodup)
    (raw : Element) :
    (∀ out, r.validate raw = .ok out →
      r.validate (.list out) = .ok out ∧
      (∃ d, r.readRaw raw = .ok d ∧ r.readRaw (.list out) = .ok (.steps d.processors)) ∧
      (r.parse (.list out)).map Pipeline.processors = (r.parse raw).map Pipeline.processors) ∧
    (∀ out, r.validateFailure raw = .ok out →
      r.validateFailure (.list out) = .ok out ∧
      ∃ d, r.readRaw raw = .ok d ∧ r.readRaw (.list out) = .ok (.steps d.failureProcessors)) := by
  constructor
  · intro out h
    obtain ⟨d, hd, rfl⟩ : ∃ d, r.readRaw raw = .ok d ∧ out = Step.dumpList d.processors := by
      unfold Registry.validate at h
      cases hd : r.readRaw raw <;> simp only [hd, Except.map, reduceCtorEq, Except.ok.injEq] at h
      exact ⟨_, rfl, h.symm⟩
    obtain ⟨⟨f, e, hps⟩, -⟩ := r.readRaw_lists hd
    have hL := Registry.readRaw_dumpList hr hps
    refine ⟨by rw [Registry.validate, hL]; rfl, ⟨d, hd, hL⟩, ?_⟩
    rw [Registry.parse_processors hL, Registry.parse_processors hd]
    rfl
  · intro out h
    obtain ⟨d, hd, rfl⟩ : ∃ d, r.readRaw raw = .ok d ∧ out = Step.dumpList d.failureProcessors := by
      unfold Registry.validateFailure at h
      cases hd : r.readRaw raw <;> simp only [hd, Except.map, reduceCtorEq, Except.ok.injEq] at h
      exact ⟨_, rfl, h.symm⟩
    obtain ⟨-, ⟨f, e, hfs⟩⟩ := r.readRaw_lists hd
    have hL := Registry.readRaw_dumpList hr hfs
    exact ⟨by rw [Registry.validateFailure, hL]; rfl, d, hd, hL⟩

/-- An entry with a key beside the name of its processor is accepted, and the key is not written
back. -/
theorem validate_ignores_key_beside_processor :
    Registry.standard.validate (.list [.dict [("comment", .scalar (.str "x")),
      ("set", .dict [("field", .scalar (.str "a")), ("value", .scalar (.str "v"))])]]) =
    .ok [.dict [("set", .dict [("field", .scalar (.str "a")), ("value", .scalar (.str "v"))])]] := by
  rfl

/-- A pipeline whose processor gives an option its default and has a failure processor, with a
failure processor of its own that also gives an option its default: validation writes each list
without the defaults, and what it writes is a normal form. -/
theorem standard_output_is_normal_form :
    (Registry.standard.kinds.map Prod.fst).Nodup ∧
    let raw : Element := .dict [("name", .scalar (.str "p")),
      ("processors", .list [.dict [("lowercase", .dict [("field", .scalar (.str "a")),
        ("ignore_missing", .scalar (.bool false)),
        ("on_failure", .list [.dict [("set", .dict [("field", .scalar (.str "err")),
          ("value", .scalar (.str "x"))])]])])]]),
      ("on_failure", .list [.dict [("uppercase", .dict [("field", .scalar (.str "b")),
        ("ignore_missing", .scalar (.bool false))])]])]
    let out : List Element := [.dict [("lowercase", .dict [("field", .scalar (.str "a")),
      ("on_failure", .list [.dict [("set", .dict [("field", .scalar (.str "err")),
        ("value", .scalar (.str "x"))])]])])]]
    let failure : List Element := [.dict [("uppercase", .dict [("field", .scalar (.str "b"))])]]
    Registry.standard.validate raw = .ok out ∧
    (Registry.standard.validate (.list out) = .ok out ∧
      (∃ d, Registry.standard.readRaw raw = .ok d ∧
        Registry.standard.readRaw (.list out) = .ok (.steps d.processors)) ∧
      (Registry.standard.parse (.list out)).map Pipeline.processors =
        (Registry.standard.parse raw).map Pipeline.processors) ∧
    Registry.standard.validateFailure raw = .ok failure ∧
    (Registry.standard.validateFailure (.list failure) = .ok failure ∧
      ∃ d, Registry.standard.readRaw raw = .ok d ∧
        Registry.standard.readRaw (.list failure) = .ok (.steps d.failureProcessors)) := by
  refine ⟨Registry.standard_names_nodup, ?_⟩
  intro raw out failure
  have hout : Registry.standard.validate raw = .ok out := rfl
  have hfailure : Registry.standard.validateFailure raw = .ok failure := rfl
  obtain ⟨hnormal, hnormalFailure⟩ :=
    validate_output_is_normal_form Registry.standard_names_nodup raw
  exact ⟨hout, hnormal out hout, hfailure, hnormalFailure failure hfailure⟩

end Elastic

end Ingest
