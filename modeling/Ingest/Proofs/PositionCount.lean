import Mathlib.Data.List.Induction
import Ingest.Text.Position

/-!
# Counting a text chunk by chunk

`Position.advance` takes one of two ways for a chunk: without a line break it moves the column
on by the chunk's length, and with one it sets the column from the characters after the last
break. Either way the column after a chunk is fixed by the last line of the text read so far:
one more than its length, counted from the previous column while no break has been read
(`column_advance_of_no_break`, `column_advance_of_last_break`).

From that, reading two chunks one after the other leaves the reader where reading their
concatenation does, whatever position it starts from and wherever the text is cut: inside a
line, right after a break, or into empty chunks. The main statement is
`Position.advance_chunks_count_text`, which also gives the position reached from the start of a
text: its length, one more than its line breaks, and one more than the length of its last line.
-/

namespace Ingest.Position

attribute [ext] Position

/-- A text with a line break is cut at its last one. -/
theorem exists_last_break {cs : List Char} (h : '\n' ∈ cs) :
    ∃ pre post, cs = pre ++ '\n' :: post ∧ '\n' ∉ post := by
  induction cs using List.reverseRecOn with
  | nil => simp at h
  | append_singleton xs x ih =>
    by_cases hx : x = '\n'
    · -- the last character is the break itself
      exact ⟨xs, [], by simp [hx], by simp⟩
    · have hxs : '\n' ∈ xs := by
        simpa [Ne.symm hx] using h
      obtain ⟨pre, post, rfl, hpost⟩ := ih hxs
      exact ⟨pre, post ++ [x], by simp, by simp [hpost, Ne.symm hx]⟩

@[simp] theorem offset_advance (p : Position) (s : String) :
    (p.advance s).offset = p.offset + s.length := by
  unfold advance
  dsimp only
  split <;> simp [String.length_toList]

@[simp] theorem line_advance (p : Position) (s : String) :
    (p.advance s).line = p.line + s.toList.count '\n' := by
  unfold advance
  dsimp only
  split
  · next h => simp [h]
  · rfl

/-- A chunk without a line break moves the column on by its length. -/
theorem column_advance_of_no_break {p : Position} {s : String} (h : '\n' ∉ s.toList) :
    (p.advance s).column = p.column + s.length := by
  have hcount : s.toList.count '\n' = 0 := List.count_eq_zero.2 h
  simp [advance, hcount, String.length_toList]

/-- A chunk with a line break puts the column after the characters that follow its last one. -/
theorem column_advance_of_last_break {p : Position} {s : String} {pre post : List Char}
    (hs : s.toList = pre ++ '\n' :: post) (hpost : '\n' ∉ post) :
    (p.advance s).column = post.length + 1 := by
  have hcount : s.toList.count '\n' ≠ 0 := by
    simp [hs]
  -- reversed, the text begins with its last line, which the break ends
  have hlast : (s.toList.reverse.takeWhile (· ≠ '\n')) = post.reverse := by
    rw [hs, List.reverse_append, List.reverse_cons, List.append_assoc,
      List.takeWhile_append_of_pos]
    · simp
    · intro c hc
      have : c ≠ '\n' := fun e => hpost (e ▸ List.mem_reverse.1 hc)
      simpa using this
  unfold advance
  dsimp only
  rw [if_neg hcount, hlast, List.length_reverse]

/-- Reading `a` and then `b` is reading `a ++ b`. -/
theorem advance_append (p : Position) (a b : String) :
    (p.advance a).advance b = p.advance (a ++ b) := by
  ext
  case line =>
    simp only [line_advance, String.toList_append, List.count_append]
    omega
  case column =>
    by_cases hb : '\n' ∈ b.toList
    · -- the last break of the whole text is the last break of `b`
      obtain ⟨pre, post, hsplit, hpost⟩ := exists_last_break hb
      rw [column_advance_of_last_break hsplit hpost,
        column_advance_of_last_break
          (show (a ++ b).toList = (a.toList ++ pre) ++ '\n' :: post by simp [hsplit]) hpost]
    · by_cases ha : '\n' ∈ a.toList
      · -- the last line of the whole text runs from the last break of `a` through `b`
        obtain ⟨pre, post, hsplit, hpost⟩ := exists_last_break ha
        have hpost' : '\n' ∉ post ++ b.toList := by simp [hpost, hb]
        rw [column_advance_of_no_break hb, column_advance_of_last_break hsplit hpost,
          column_advance_of_last_break
            (show (a ++ b).toList = pre ++ '\n' :: (post ++ b.toList) by simp [hsplit]) hpost']
        simp [String.length_toList]
        omega
      · have hab : '\n' ∉ (a ++ b).toList := by simp [ha, hb]
        rw [column_advance_of_no_break hb, column_advance_of_no_break ha,
          column_advance_of_no_break hab, String.length_append]
        omega
  case offset =>
    simp only [offset_advance, String.length_append]
    omega

/-- Counting a text in chunks gives the position of counting it whole; from the start, the
offset is the length of the text, the line is one more than its line breaks, and the column is
one more than the length of its last line, which is the whole text when it has no break. -/
theorem advance_chunks_count_text :
    (∀ (p : Position) (a b : String), (p.advance a).advance b = p.advance (a ++ b)) ∧
    ∀ s : String,
      (start.advance s).offset = s.length ∧
      (start.advance s).line = 1 + s.toList.count '\n' ∧
      ('\n' ∉ s.toList → (start.advance s).column = 1 + s.length) ∧
      ∀ pre post, s.toList = pre ++ '\n' :: post → '\n' ∉ post →
        (start.advance s).column = 1 + post.length := by
  refine ⟨advance_append, fun s => ⟨?_, ?_, fun h => ?_, fun pre post hs hpost => ?_⟩⟩
  · simp [start]
  · simp [start]
  · rw [column_advance_of_no_break h]
    simp [start]
  · rw [column_advance_of_last_break hs hpost]
    omega

end Ingest.Position
