import Ingest.Proofs.RemoveFields
import Ingest.Proofs.SortMembers

/-!
# What a field action computes

`Action.process` turns the value of a field into the value to write. It reads the store and
may add to it: a NaN float or date gets a container of its own, and a trimmed list, a split
text or a sorted list a new list. It never changes a container that was there before, and the
node it returns holds a tree whose containers are new or belong to the value it was given: a
sort returns a new list of the value's own items, and an action that keeps the value returns
the value itself (`Action.process_yields`).
-/

namespace Ingest

namespace Store

variable {s : Store} {cv : List Nat}

/-- What a step that computes a node from a value held in the containers `cv` may end with,
run on `s`: on success, a store that keeps every container of `s` and a node holding a tree in
containers of `cv` or in new ones; on failure, a store that keeps every container of `s`. -/
def Yields (s : Store) (cv : List Nat) (x : Run Node) : Prop :=
  match x s with
  | .ok r s' => Extends s s' ∧ ∃ y cr, Holds s' y r cr ∧ ∀ j ∈ cr, j ∈ cv ∨ s.cells.size ≤ j
  | .error _ s' => Extends s s'

theorem yields_throw (e : Error) : Yields s cv (throw e) := Extends.refl s

theorem yields_pure_scalar (x : Scalar) : Yields s cv (pure (.scalar x)) :=
  ⟨Extends.refl s, .scalar x, [], .inl ⟨rfl, rfl⟩, by simp⟩

theorem Holds.yields {x : Element} {v : Node} (hv : Holds s x v cv) : Yields s cv (pure v) :=
  ⟨Extends.refl s, x, cv, hv, fun _ hj => .inl hj⟩

/-- A scalar put into the store, in a new container for a NaN. -/
theorem yields_scalar (x : Scalar) : Yields s cv (Run.scalar x) := by
  obtain ⟨hext, cells, hx, -, hge⟩ := scalar_holds s x
  exact ⟨hext, .scalar x, cells, hx, fun j hj => .inr (hge j hj)⟩

/-- A new list of nodes that hold trees in the containers `cv`. -/
theorem yields_list {es : List Element} {ns : List Node} {cs : List Nat}
    (hns : HoldsItems s es ns cs) (hcs : ∀ j ∈ cs, j ∈ cv) : Yields s cv (Run.list ns) := by
  have hext := extends_alloc s (.list ns)
  refine ⟨hext, .list es, s.cells.size :: cs,
    ⟨s.cells.size, ns, cs, rfl, read?_alloc_self s _, hns.extend hext, rfl⟩, ?_⟩
  intro j hj
  rcases List.mem_cons.1 hj with rfl | hj
  · exact .inr (Nat.le_refl _)
  · exact .inl (hcs j hj)

/-- Nodes that each hold a tree in the containers `pool` hold, together, a list of trees in
those containers. -/
theorem holdsItems_of_forall {pool : List Nat} : ∀ (ns : List Node),
    (∀ n ∈ ns, ∃ e c, Holds s e n c ∧ ∀ j ∈ c, j ∈ pool) →
      ∃ es cs, HoldsItems s es ns cs ∧ ∀ j ∈ cs, j ∈ pool
  | [], _ => ⟨[], [], ⟨rfl, rfl⟩, by simp⟩
  | n :: ns, h => by
    obtain ⟨e, c, he, hc⟩ := h n List.mem_cons_self
    obtain ⟨es, cs, hes, hcs⟩ :=
      holdsItems_of_forall ns fun m hm => h m (List.mem_cons_of_mem n hm)
    refine ⟨e :: es, c ++ cs, ⟨n, ns, c, cs, rfl, he, hes, rfl⟩, ?_⟩
    intro j hj
    rcases List.mem_append.1 hj with hj | hj
    · exact hc j hj
    · exact hcs j hj

/-- A new list of scalar nodes. -/
theorem yields_list_scalars {ns : List Node} (h : ∀ n ∈ ns, ∃ x, n = .scalar x) :
    Yields s cv (Run.list ns) := by
  obtain ⟨es, cs, hes, hcs⟩ : ∃ es cs, HoldsItems s es ns cs ∧ ∀ j ∈ cs, j ∈ cv :=
    holdsItems_of_forall ns fun n hn => by
    obtain ⟨x, rfl⟩ := h n hn
    exact ⟨.scalar x, [], .inl ⟨rfl, rfl⟩, by simp⟩
  exact yields_list hes hcs

/-- Each item of a list holds a tree in the containers of the list. -/
theorem HoldsItems.holds_of_mem : ∀ {items : List Element} {nodes : List Node} {cells : List Nat},
    HoldsItems s items nodes cells → ∀ n ∈ nodes, ∃ e c, Holds s e n c ∧ ∀ j ∈ c, j ∈ cells
  | [], _, _, h, n, hn => by
    obtain ⟨rfl, -⟩ := h
    cases hn
  | e :: es, _, _, h, n, hn => by
    obtain ⟨m, ms, c, rest, rfl, hm, hms, rfl⟩ := h
    rcases List.mem_cons.1 hn with rfl | hn
    · exact ⟨e, c, hm, fun j hj => List.mem_append_left _ hj⟩
    · obtain ⟨e', c', he', hc'⟩ := hms.holds_of_mem n hn
      exact ⟨e', c', he', fun j hj => List.mem_append_right _ (hc' j hj)⟩

/-- A node with items holds a list, whose items hold trees in the node's containers. -/
theorem Holds.items?_eq_some {x : Element} {v : Node} (hv : Holds s x v cv) {items : List Node}
    (h : s.items? v = some items) :
    ∃ xs rest, HoldsItems s xs items rest ∧ ∀ j ∈ rest, j ∈ cv := by
  cases x with
  | scalar x =>
    rcases hv with ⟨rfl, -⟩ | ⟨i, f, rfl, hi, -⟩
    · simp [items?, cellOf?] at h
    · simp [items?, hi] at h
  | list xs =>
    obtain ⟨i, nodes, rest, rfl, hi, hxs, rfl⟩ := hv
    simp only [items?, cellOf?_ref, hi, Option.map_some, Option.some.injEq] at h
    subst h
    exact ⟨xs, rest, hxs, fun j hj => List.mem_cons_of_mem i hj⟩
  | dict entries =>
    obtain ⟨i, nodes, rest, rfl, hi, -⟩ := hv
    simp [items?, hi] at h

end Store

namespace Run

/-- Reading a text reads the store and leaves it as it was. -/
theorem text_cases (n : Node) (s : Store) :
    (∃ t, Run.text n s = .ok t s) ∨ Run.text n s = .error .invalid s := by
  delta Run.text
  rw [Run.bind_of_ok (rfl : (get : Run Store) s = .ok s s)]
  -- a text, or any other scalar or none
  rcases s.scalarOf? n with _ | ⟨_ | _ | _ | _ | t | _⟩
  all_goals first | exact .inl ⟨_, rfl⟩ | exact .inr rfl

/-- Reading the texts of a list of nodes reads the store and leaves it as it was. -/
theorem mapM_text_cases (s : Store) : ∀ (ns : List Node),
    (∃ ts, ns.mapM Run.text s = .ok ts s) ∨ ∃ e, ns.mapM Run.text s = .error e s
  | [] => .inl ⟨[], by rw [List.mapM_nil]; rfl⟩
  | n :: ns => by
    rw [List.mapM_cons]
    rcases text_cases n s with ⟨t, ht⟩ | ht
    · rw [Run.bind_of_ok ht]
      rcases mapM_text_cases s ns with ⟨ts, hts⟩ | ⟨e, hts⟩
      · exact .inl ⟨t :: ts, by rw [Run.bind_of_ok hts]; rfl⟩
      · exact .inr ⟨e, Run.bind_of_error hts⟩
    · exact .inr ⟨_, Run.bind_of_error ht⟩

end Run

namespace Store

variable {s : Store} {cv : List Nat}

theorem yields_get_bind {f : Store → Run Node} (h : Yields s cv (f s)) :
    Yields s cv (MonadState.get >>= f) := by
  unfold Yields
  rw [Run.bind_of_ok (rfl : (MonadState.get : Run Store) s = .ok s s)]
  exact h

theorem yields_bind_text {v : Node} {f : String → Run Node} (h : ∀ t, Yields s cv (f t)) :
    Yields s cv (Run.text v >>= f) := by
  unfold Yields
  rcases Run.text_cases v s with ⟨t, ht⟩ | ht
  · rw [Run.bind_of_ok ht]
    exact h t
  · rw [Run.bind_of_error ht]
    exact Extends.refl s

theorem yields_bind_mapM_text {ns : List Node} {f : List String → Run Node}
    (h : ∀ ts, Yields s cv (f ts)) : Yields s cv (ns.mapM Run.text >>= f) := by
  unfold Yields
  rcases Run.mapM_text_cases s ns with ⟨ts, hts⟩ | ⟨e, hts⟩
  · rw [Run.bind_of_ok hts]
    exact h ts
  · rw [Run.bind_of_error hts]
    exact Extends.refl s

end Store

open Store in
/-- A field action's computation keeps every container of the store, and when it succeeds it
returns a node holding a tree in the containers of the value it was given or in new ones. -/
theorem Action.process_yields {s : Store} (a : Action Node) {x : Element} {v : Node}
    {cv : List Nat} (hv : Holds s x v cv) : Yields s cv (a.process v) := by
  refine yields_get_bind ?_
  -- each action makes a scalar, puts a number or a date in the store, makes a new list of
  -- texts or of the items of `v`, returns `v` itself, or fails
  cases a with
  | boolean =>
    dsimp only
    split
    · split
      · exact yields_pure_scalar _
      · split
        · exact yields_pure_scalar _
        · exact yields_throw _
    · exact yields_throw _
  | bytes =>
    refine yields_bind_text fun t => ?_
    split
    · exact yields_pure_scalar _
    · exact yields_throw _
  | float =>
    dsimp only
    split
    · exact yields_scalar _
    · exact yields_throw _
  | integer =>
    dsimp only
    split
    · split
      · exact yields_pure_scalar _
      · exact yields_throw _
    · exact yields_throw _
  | ip =>
    dsimp only
    split
    · exact yields_pure_scalar _
    · split
      · exact yields_pure_scalar _
      · exact yields_throw _
  | string => exact yields_pure_scalar _
  | lowercase | uppercase => exact yields_bind_text fun _ => yields_pure_scalar _
  | trim =>
    dsimp only
    split
    · exact yields_pure_scalar _
    · exact yields_bind_mapM_text fun _ => yields_list_scalars (by simp)
    · exact yields_throw _
  | sort =>
    dsimp only
    split
    · rename_i items hitems
      split
      · -- a sort returns items of the list, which hold trees in the containers of `v`
        rename_i sorted hsorted
        obtain ⟨xs, rest, hxs, hrest⟩ := hv.items?_eq_some hitems
        obtain ⟨es, cs, hes, hcs⟩ := holdsItems_of_forall sorted fun n hn =>
          hxs.holds_of_mem n (Order.mem_of_sortBy _ hsorted hn)
        exact yields_list hes fun j hj => hrest j (hcs j hj)
      · exact yields_throw _
    · exact yields_throw _
  | date =>
    dsimp only
    split
    · split
      · exact yields_scalar _
      · exact yields_throw _
    · exact yields_throw _
  | split => exact yields_bind_text fun _ => yields_list_scalars (by simp)
  | uriParts | urlDecode | userAgent => exact yields_bind_text fun _ => yields_throw _
  | append | communityId | copy | csv | drop | json | keep | remove | set => exact hv.yields

end Ingest
