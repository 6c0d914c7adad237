import Cyclomatic.Syntax.Source

/-!
Lines of positions. A source keeps the start of every line: position 0, then the position after
each newline. The line of a position is found by a binary search over those starts. Whatever
its fuel, the search stays inside the interval it is given and moves right as the position
does; so no position is on a line past the last one, which is the number of newlines, and a
later position is never on an earlier line.
-/

namespace Cyclomatic.Syntax.Source

variable (s : Source)

theorem line_eq (p : Nat) : s.line p = line.search s p 0 s.lineStarts.size 64 := rfl

/-- The search answers with a point of the nonempty interval it is given. -/
theorem line_search_mem {p lo hi : Nat} (fuel : Nat) (nonempty : lo < hi) :
    lo ≤ line.search s p lo hi fuel ∧ line.search s p lo hi fuel < hi := by
  induction fuel generalizing lo hi with
  | zero =>
    simp only [line.search]
    omega
  | succ fuel ih =>
    simp only [line.search]
    split
    · omega
    · split
      · have inRight := ih (show (lo + hi) / 2 < hi by omega)
        omega
      · have inLeft := ih (show lo < (lo + hi) / 2 by omega)
        omega

/-- A later position is found at the same point or further right. -/
theorem line_search_mono {p q : Nat} (le : p ≤ q) (lo hi fuel : Nat) :
    line.search s p lo hi fuel ≤ line.search s q lo hi fuel := by
  induction fuel generalizing lo hi with
  | zero => exact Nat.le_refl _
  | succ fuel ih =>
    simp only [line.search]
    split
    · exact Nat.le_refl _
    · -- the two searches part ways only when the middle start lies between the positions
      split <;> split
      · exact ih _ _
      · omega
      · have left := (line_search_mem s (p := p) fuel (show lo < (lo + hi) / 2 by omega)).2
        have right := (line_search_mem s (p := q) fuel (show (lo + hi) / 2 < hi by omega)).1
        omega
      · exact ih _ _

theorem line_mono {p q : Nat} (le : p ≤ q) : s.line p ≤ s.line q :=
  line_search_mono s le _ _ _

theorem line_lt_size (nonempty : 0 < s.lineStarts.size) (p : Nat) :
    s.line p < s.lineStarts.size :=
  (line_search_mem s 64 nonempty).2

/-- Each newline adds one line start. -/
theorem size_foldl_lineStarts (entries : List (Char × Nat)) (acc : Array Nat) :
    (entries.foldl (fun acc (c, i) => if c == '\n' then acc.push (i + 1) else acc) acc).size =
      acc.size + (entries.map Prod.fst).count '\n' := by
  induction entries generalizing acc with
  | nil => rfl
  | cons entry entries ih =>
    rcases entry with ⟨c, i⟩
    rw [List.foldl_cons, ih, List.map_cons, List.count_cons]
    by_cases newline : c = '\n'
    · simp [newline]
      omega
    · simp [newline]

theorem lineStartsOf_size (chars : Array Char) :
    (lineStartsOf chars).size = chars.toList.count '\n' + 1 := by
  rw [lineStartsOf, size_foldl_lineStarts, List.zipIdx_map_fst]
  simp only [List.size_toArray, List.length_singleton]
  omega

/-- A text has one line more than it has newlines. -/
theorem ofString_lineStarts_size (text : String) (dialect : Dialect) :
    (ofString text dialect).lineStarts.size = text.toList.count '\n' + 1 := by
  rw [ofString, lineStartsOf_size, List.toList_toArray]

/-- No position of a text is on a line past the number of its newlines. -/
theorem line_ofString_le (text : String) (dialect : Dialect) (p : Nat) :
    (ofString text dialect).line p ≤ text.toList.count '\n' := by
  have below := line_lt_size (ofString text dialect)
    (by rw [ofString_lineStarts_size]; omega) p
  rw [ofString_lineStarts_size] at below
  omega

end Cyclomatic.Syntax.Source
