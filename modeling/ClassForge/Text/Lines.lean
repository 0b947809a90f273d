import ClassForge.Text.Cut

/-!
# Lines of texts

## Main definitions

- `Text.lines` — the lines of a text, without what ends them

## Design notes

A line ends with a line feed, or with a carriage return and a line feed. What follows the last end
is a line of its own unless it is empty, and keeps its carriage returns.
-/

namespace ClassForge.Text

/-- A line without the carriage return before its line feed. -/
def dropReturn (line : List Char) : List Char :=
  if line.getLast? = some '\r' then line.dropLast else line

def lines (s : List Char) : List (List Char) :=
  match _ : cut? '\n' s with
  | some (line, rest) => dropReturn line :: lines rest
  | none => if s.isEmpty then [] else [s]
termination_by s.length
decreasing_by
  rename_i h
  simp [eq_append_of_cut? h]
  omega

end ClassForge.Text
