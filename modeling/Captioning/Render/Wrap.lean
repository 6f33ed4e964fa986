import Captioning.Render.Style

/-!
# Breaking lines

A line that is longer than a given number of characters is broken into pieces.
-/

namespace Captioning

/-- The longest first pieces of `size` items, at least one, and what is left at the end. -/
def chunks {α : Type} (size : Nat) (items : List α) : List (List α) :=
  if items = [] then []
  else items.take (max size 1) :: chunks size (items.drop (max size 1))
termination_by items.length
decreasing_by
  rename_i h
  have := List.length_pos_iff.mpr h
  rw [List.length_drop]
  omega

/-- A line with another word at its end. -/
def appendWord (line word : List Char) : List Char :=
  if line = [] then word else line ++ ' ' :: word

/-- The pieces of a word that finds no place on a line with other words. -/
def wordPieces (size : Nat) (mode : WrapMode) (word : List Char) : List (List Char) :=
  if size < word.length ∧ mode = .wordChar then chunks size word else [word]

/-- The pieces of a line that begins with `line` and goes on with the given words.  A word that
does not fit begins a piece of its own; its last part stays open for the next word. -/
def wrapWords (size : Nat) (mode : WrapMode) : List Char → List (List Char) → List (List Char)
  | line, [] => [line]
  | line, word :: rest =>
      let longer := appendWord line word
      if longer.length ≤ size then wrapWords size mode longer rest
      else
        let pieces := wordPieces size mode word
        (if line = [] then [] else [line]) ++ pieces.dropLast ++
          wrapWords size mode (pieces.getLast?.getD []) rest

/-- The pieces of a line. -/
def wrapLine (size : Nat) (mode : WrapMode) (line : List Char) : List (List Char) :=
  if mode = .never ∨ line.length ≤ size then [line]
  else if mode = .char then chunks size line
  else wrapWords size mode [] (line.splitOn ' ')

/-- The pieces of all lines of a text; without a size no line is broken. -/
def wrapText (size : Option Nat) (mode : WrapMode) (text : List Char) : List (List Char) :=
  let lines := text.splitOn '\n'
  match size with
  | some size => lines.flatMap (wrapLine size mode)
  | none => lines

end Captioning
