import Mathlib.Data.List.DropRight
import Ingest.Proofs.ProcessResult

/-!
# Splitting a text at the matches of a pattern

`Pattern.pieces` cuts a text at the matches that `Pattern.spans` finds and keeps the texts
between them: the one before the first match, one between each two consecutive matches, and
the one after the last (`gapsFrom`). So there is one piece more than there are matches, and the
pieces with the matched texts put back between them make up the text again (`weave_gapsFrom`).

That rests on the matches following one another, each starting at or after the end of the one
before, and the matcher sees to it: no frame of its stack moves the position back. A character
or a back-reference moves it on and every other frame keeps it; a look-behind runs its body
from further back but goes on from where it stood (`le_of_step`). A search from a position so
finds a match that starts there or later, and the next search starts where that match ended
(`ordered_spans`).

The split action returns the pieces as a new list of texts, or, unless trailing pieces are
kept, the pieces without the empty texts at their end. The main statement is
`Action.split_cuts_text_at_matches`.
-/

namespace Ingest.Regex

variable {text : Array Char}

@[simp] theorem step_nil (fuel pos : Nat) (caps : Captures) :
    step text fuel pos caps [] = some (pos, caps) := by
  cases fuel <;> rfl

/-- Of two ways tried one after the other, the one that ends is one of the two. -/
theorem eq_or_eq_of_orElse {x y : Option (Nat × Captures)} {r : Nat × Captures}
    (h : (x.orElse fun _ => y) = some r) : x = some r ∨ y = some r := by
  rw [Option.orElse_eq_or, Option.or_eq_some_iff] at h
  rcases h with h | ⟨-, h⟩
  · exact .inl h
  · exact .inr h

/-- The work on the stack never ends before the position it starts at. -/
theorem le_of_step {fuel pos p : Nat} {caps c : Captures} {k : List Frame}
    (h : step text fuel pos caps k = some (p, c)) : pos ≤ p := by
  -- on the depth of search, which every recursive call lowers by one
  induction fuel generalizing pos caps k p c with
  | zero =>
    cases k with
    | nil => simp at h; omega
    | cons => simp [step] at h
  | succ fuel ih =>
    cases k with
    | nil => simp at h; omega
    | cons frame k =>
    cases frame with
    | notAt q =>
      simp only [step] at h
      split at h
      · cases h
      · exact ih h
    | close i start =>
      simp only [step] at h
      exact ih h
    | again body f min max lazy count last =>
      simp only [step] at h
      split at h
      · exact ih h
      · split at h
        · split at h <;> rcases eq_or_eq_of_orElse h with h | h <;> exact ih h
        · exact ih h
    | possess body f min max count last =>
      -- a possessive round keeps only the first way its body ends, and goes on from there
      simp only [step] at h
      split at h
      · split at h
        · next hbody => exact Nat.le_trans (ih hbody) (ih h)
        · cases h
      · split at h
        · split at h
          · next hbody => exact Nat.le_trans (ih hbody) (ih h)
          · exact ih h
        · exact ih h
    | node n f =>
      cases n with
      | seq items =>
        simp only [step] at h
        exact ih h
      | alt branches =>
        cases branches with
        | nil => simp [step] at h
        | cons b bs =>
          simp only [step] at h
          rcases eq_or_eq_of_orElse h with h | h <;> exact ih h
      | char _ | any | set _ _ =>
        -- one character read moves the position on by one
        simp only [step] at h
        split at h
        · split at h
          · have := ih h
            omega
          · cases h
        · cases h
      | anchor a =>
        simp only [step] at h
        split at h
        · exact ih h
        · cases h
      | group index add remove body =>
        simp only [step] at h
        split at h <;> exact ih h
      | look behind negated body =>
        -- the body may run from further back, but the match goes on from `pos`
        simp only [step] at h
        split at h
        · exact ih h
        · exact ih h
        · cases h
      | atomic body =>
        simp only [step] at h
        split at h
        · next hbody => exact Nat.le_trans (ih hbody) (ih h)
        · cases h
      | loop body min max greed =>
        cases greed <;> simp only [step] at h <;> exact ih h
      | backref i =>
        -- a back-reference reads again the text its group captured
        simp only [step] at h
        split at h
        · split at h
          · have := ih h
            omega
          · cases h
        · cases h
      | ifGroup i yes no =>
        simp only [step] at h
        split at h <;> exact ih h

namespace Pattern

variable {r : Pattern}

/-- A match ends at or after its start. -/
theorem le_of_matchAt {start stop : Nat} {forbidEmpty : Bool} {caps : Captures}
    (h : r.matchAt text start forbidEmpty = some (stop, caps)) : start ≤ stop :=
  le_of_step h

/-- A search finds a match that starts at or after where the search starts. -/
theorem le_of_searchFrom {fuel start a b : Nat} {forbidEmpty : Bool}
    (h : r.searchFrom text fuel start forbidEmpty = some (a, b)) : start ≤ a ∧ a ≤ b := by
  induction fuel generalizing start forbidEmpty with
  | zero => simp [searchFrom] at h
  | succ fuel ih =>
    simp only [searchFrom] at h
    split at h
    · next stop caps hm =>
      cases h
      exact ⟨Nat.le_refl _, le_of_matchAt hm⟩
    · -- no match at `start`: the search goes on one position further
      split at h
      · have := ih h
        omega
      · cases h

/-- Spans that follow one another from `last`: each starts at or after the end of the one
before it, the first at or after `last`, and ends at or after its own start. -/
def Ordered : Nat → List (Nat × Nat) → Prop
  | _, [] => True
  | last, (a, b) :: rest => last ≤ a ∧ a ≤ b ∧ Ordered b rest

@[simp] theorem ordered_nil (last : Nat) : Ordered last [] := trivial

@[simp] theorem ordered_cons (last a b : Nat) (rest : List (Nat × Nat)) :
    Ordered last ((a, b) :: rest) ↔ last ≤ a ∧ a ≤ b ∧ Ordered b rest := Iff.rfl

/-- The matches from a position on follow one another from there. -/
theorem ordered_spansFrom {fuel pos : Nat} {forbidEmpty : Bool} :
    Ordered pos (r.spansFrom text fuel pos forbidEmpty) := by
  induction fuel generalizing pos forbidEmpty with
  | zero => simp [spansFrom]
  | succ fuel ih =>
    simp only [spansFrom]
    split
    · exact ordered_nil pos
    · split
      · exact ordered_nil pos
      · next a b hs =>
        obtain ⟨hpa, hab⟩ := le_of_searchFrom hs
        exact ⟨hpa, hab, ih⟩

/-- The matches across a text follow one another: they do not overlap, and each starts at or
after the end of the one before. -/
theorem ordered_spans : Ordered 0 (r.spans text) := ordered_spansFrom

/-! ## The texts between the matches -/

/-- The texts between consecutive spans: from `last` to the start of the first span, from the
end of each span to the start of the next, and from the end of the last span to the end of
the text. -/
def gapsFrom (text : Array Char) : Nat → List (Nat × Nat) → List String
  | last, [] => [slice text last text.size]
  | last, (a, b) :: rest => slice text last a :: gapsFrom text b rest

/-- Pieces with texts put between them: `p₀ ++ m₁ ++ p₁ ++ … ++ mₖ ++ pₖ`. -/
def weave : List String → List String → String
  | p :: ps, m :: ms => p ++ m ++ weave ps ms
  | ps, [] => String.join ps
  | [], _ :: _ => ""

theorem length_gapsFrom (last : Nat) (sp : List (Nat × Nat)) :
    (gapsFrom text last sp).length = sp.length + 1 := by
  induction sp generalizing last with
  | nil => rfl
  | cons m rest ih => simp [gapsFrom, ih]

/-- The piece up to a span's start and the rest of the text make up the text from where the
piece starts, a span that runs past the end included. -/
theorem slice_append_slice_size {a b : Nat} (h : a ≤ b) :
    slice text a b ++ slice text b text.size = slice text a text.size := by
  have hmax : text.extract a (max b text.size) = text.extract a text.size := by
    rcases Nat.lt_or_ge text.size b with hlt | hle
    · rw [Nat.max_eq_left (Nat.le_of_lt hlt), Array.extract_of_size_lt hlt]
    · rw [Nat.max_eq_right hle]
  unfold slice
  rw [← String.ofList_append, ← Array.toList_append, Array.extract_append_extract,
    Nat.min_eq_left h, hmax]

/-- The pieces between spans that follow one another, with the spanned texts put back between
them, make up the text from where the first piece starts. -/
theorem weave_gapsFrom {last : Nat} {sp : List (Nat × Nat)} (h : Ordered last sp) :
    weave (gapsFrom text last sp) (sp.map fun m => slice text m.1 m.2) =
      slice text last text.size := by
  induction sp generalizing last with
  | nil => simp [gapsFrom, weave]
  | cons m rest ih =>
    obtain ⟨a, b⟩ := m
    obtain ⟨hla, hab, hrest⟩ := h
    rw [gapsFrom, List.map_cons, weave, ih hrest, String.append_assoc,
      slice_append_slice_size hab, slice_append_slice_size hla]

/-- The whole of a text, sliced. -/
theorem slice_whole (s : String) : slice s.toList.toArray 0 s.toList.toArray.size = s := by
  simp [slice]

/-- Cutting a text at the matches, piece by piece, gives the texts between them. -/
theorem foldl_gaps (text : Array Char) (sp : List (Nat × Nat)) (acc : List String)
    (last : Nat) :
    (slice text (sp.foldl (fun x m => (slice text x.2 m.1 :: x.1, m.2)) (acc, last)).2 text.size ::
      (sp.foldl (fun x m => (slice text x.2 m.1 :: x.1, m.2)) (acc, last)).1).reverse =
      acc.reverse ++ gapsFrom text last sp := by
  induction sp generalizing acc last with
  | nil => simp [gapsFrom]
  | cons m rest ih => simp [ih, gapsFrom]

/-- The texts between the matches of a pattern across a text. -/
def gaps (r : Pattern) (s : String) : List String :=
  gapsFrom s.toList.toArray 0 (r.spans s.toList.toArray)

/-- The texts that the matches of a pattern across a text cover, left to right. -/
def matchTexts (r : Pattern) (s : String) : List String :=
  (r.spans s.toList.toArray).map fun m => slice s.toList.toArray m.1 m.2

/-- The pieces of a text are the texts between the matches. -/
theorem pieces_eq_gaps (s : String) : r.pieces s = r.gaps s := by
  unfold pieces
  dsimp only
  exact foldl_gaps _ _ [] 0

/-- There is one text between matches more than there are matches. -/
theorem length_gaps (s : String) : (r.gaps s).length = (r.matchTexts s).length + 1 := by
  rw [gaps, matchTexts, length_gapsFrom, List.length_map]

/-- The texts between the matches, with the matched texts put back between them, make up the
text. -/
theorem weave_gaps (s : String) : weave (r.gaps s) (r.matchTexts s) = s := by
  rw [gaps, matchTexts, weave_gapsFrom ordered_spans, slice_whole]

end Pattern

end Ingest.Regex

namespace Ingest

open Regex Pattern Store

/-- Dropping the empty texts at the end of a list leaves a prefix of it that only empty texts
follow and that does not end in one; nothing is left of a list of empty texts. -/
theorem rdropWhile_isEmpty (l : List String) :
    (∃ rest, l = l.rdropWhile String.isEmpty ++ rest ∧ ∀ p ∈ rest, p = "") ∧
    (∀ p ∈ (l.rdropWhile String.isEmpty).getLast?, p ≠ "") ∧
    ((∀ p ∈ l, p = "") → l.rdropWhile String.isEmpty = []) := by
  refine ⟨⟨l.rtakeWhile String.isEmpty, List.rdropWhile_append_rtakeWhile.symm, ?_⟩, ?_, ?_⟩
  · intro p hp
    exact String.isEmpty_iff.1 (List.mem_rtakeWhile_imp hp)
  · intro p hp
    have hne : l.rdropWhile String.isEmpty ≠ [] :=
      List.ne_nil_of_mem (List.mem_of_mem_getLast? hp)
    have hlast := List.rdropWhile_last_not String.isEmpty l hne
    rw [List.getLast_of_mem_getLast? hp] at hlast
    simpa using hlast
  · intro hall
    exact List.rdropWhile_eq_nil_iff.2 fun p hp => String.isEmpty_iff.2 (hall p hp)

/-- Texts as scalar nodes hold the list of those texts, reading no container. -/
theorem Store.holdsItems_texts (s : Store) (ps : List String) :
    HoldsItems s (ps.map fun p => .scalar (.str p)) (ps.map fun p => .scalar (.str p)) [] := by
  induction ps with
  | nil => exact ⟨rfl, rfl⟩
  | cons p ps ih => exact ⟨_, _, [], [], rfl, .inl ⟨rfl, rfl⟩, ih, rfl⟩

/-- The split action on a text makes a new list of the pieces, less the empty ones at the end
unless those are kept. -/
theorem Action.process_split (o : FieldOptions) (r : Pattern) (keepTrailing : Bool) (s : Store)
    (t : String) :
    (Action.split o r keepTrailing).process (.scalar (.str t)) s =
      let ps := if keepTrailing then r.pieces t else (r.pieces t).rdropWhile String.isEmpty
      .ok (.ref s.cells.size) (s.alloc (.list (ps.map fun p => .scalar (.str p)))).2 :=
  rfl

/-- Splitting a text at the matches of a pattern: the matches follow one another, the texts
between them are one more than the matches and, with the matched texts put back between
them, make up the text. The action returns a new list of those texts; unless trailing pieces
are kept, the empty texts at its end are dropped, all of them when every piece is empty. -/
theorem Action.split_cuts_text_at_matches (o : FieldOptions) (r : Pattern)
    (keepTrailing : Bool) (s : Store) (t : String) :
    Ordered 0 (r.spans t.toList.toArray) ∧
    (r.gaps t).length = (r.matchTexts t).length + 1 ∧ weave (r.gaps t) (r.matchTexts t) = t ∧
    ∃ ps s', (Action.split o r keepTrailing).process (.scalar (.str t)) s =
        .ok (.ref s.cells.size) s' ∧ Extends s s' ∧
      Holds s' (.list (ps.map fun p => .scalar (.str p))) (.ref s.cells.size) [s.cells.size] ∧
      (keepTrailing = true → ps = r.gaps t) ∧
      (keepTrailing = false →
        (∃ rest, r.gaps t = ps ++ rest ∧ ∀ p ∈ rest, p = "") ∧ (∀ p ∈ ps.getLast?, p ≠ "") ∧
        ((∀ p ∈ r.gaps t, p = "") → ps = [])) := by
  refine ⟨ordered_spans, length_gaps t, weave_gaps t, ?_⟩
  let ps := if keepTrailing then r.gaps t else (r.gaps t).rdropWhile String.isEmpty
  let c : Cell := .list (ps.map fun p => .scalar (.str p))
  refine ⟨ps, (s.alloc c).2, ?_, extends_alloc s c,
    ⟨s.cells.size, _, [], rfl, read?_alloc_self s c, holdsItems_texts _ ps, rfl⟩, ?_, ?_⟩
  · rw [Action.process_split, pieces_eq_gaps]
  · intro hk
    simp [ps, hk]
  · intro hk
    simpa [ps, hk] using rdropWhile_isEmpty (r.gaps t)

end Ingest
