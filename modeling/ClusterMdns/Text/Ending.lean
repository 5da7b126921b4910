/-!
The end of a text: a character that stands there once or several times.

Main statements: `dropTerminator_concat` and `dropTerminator_append_cons`, what a terminator is and what
it leaves alone.
-/

namespace ClusterMdns.Text

/-- A text without the run of one character at its end. -/
def dropTrailing (c : Char) (text : List Char) : List Char :=
  (text.reverse.dropWhile (· == c)).reverse

/-- A text without one occurrence of a character at its end, if it ends in one. -/
def dropTerminator (c : Char) (text : List Char) : List Char :=
  if text.getLast? = some c then text.dropLast else text

theorem dropTerminator_concat (c : Char) (text : List Char) :
    dropTerminator c (text ++ [c]) = text := by
  simp [dropTerminator]

/-- The end of a text is the end of what stands last in it. -/
theorem dropTerminator_append_cons (c d : Char) (first : List Char) {second : List Char}
    (inhabited : second ≠ []) :
    dropTerminator c (first ++ d :: second) = first ++ d :: dropTerminator c second := by
  have last : (first ++ d :: second).getLast? = second.getLast? := by
    rw [List.getLast?_append, List.getLast?_cons_of_ne_nil inhabited,
      List.getLast?_eq_some_getLast inhabited, Option.some_or]
  unfold dropTerminator
  rw [last]
  split
  · rw [List.dropLast_append_cons, List.dropLast_cons_of_ne_nil inhabited]
  · rfl

end ClusterMdns.Text
