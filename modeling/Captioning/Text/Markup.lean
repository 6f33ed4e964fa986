/-!
# Markup

Caption texts are markup: tags between angle brackets and five entities.
-/

namespace Captioning.Markup

/-- The markup of one character. -/
def escapeChar (c : Char) : List Char :=
  if c = '&' then ['&', 'a', 'm', 'p', ';']
  else if c = '<' then ['&', 'l', 't', ';']
  else if c = '>' then ['&', 'g', 't', ';']
  else if c = '\x27' then ['&', 'a', 'p', 'o', 's', ';']
  else if c = '"' then ['&', 'q', 'u', 'o', 't', ';']
  else [c]

/-- The markup that shows a text as it stands. -/
def escape (cs : List Char) : List Char :=
  cs.flatMap escapeChar

/-- The names of the entities after their ampersand, and what they stand for. -/
def entities : List (List Char × Char) :=
  [(['a', 'm', 'p', ';'], '&'), (['l', 't', ';'], '<'), (['g', 't', ';'], '>'),
    (['a', 'p', 'o', 's', ';'], '\x27'), (['q', 'u', 'o', 't', ';'], '"')]

/-- The entity whose name the characters begin with. -/
def entity? (cs : List Char) : Option (List Char × Char) :=
  entities.find? fun (name, _) => name.isPrefixOf cs

/-- What follows the first `>`, if there is one. -/
def afterTag? (cs : List Char) : Option (List Char) :=
  match cs.dropWhile (· ≠ '>') with
  | [] => none
  | _ :: r => some r

/-- What follows a tag is shorter than what the tag begins. -/
theorem length_afterTag?_lt {cs r : List Char} (h : afterTag? cs = some r) :
    r.length < cs.length := by
  unfold afterTag? at h
  have hle := (List.dropWhile_suffix (l := cs) (· ≠ '>')).length_le
  split at h
  · simp at h
  · rename_i heq
    rw [heq] at hle
    cases h
    simp only [List.length_cons] at hle
    omega

/-- The text that markup shows.  A tag is left out; an angle bracket that no other closes
begins no tag, and all after it stands as it is.  An ampersand that begins no entity stands for
itself. -/
def plain : List Char → List Char
  | [] => []
  | c :: cs =>
      if c = '<' then
        match _h : afterTag? cs with
        | some rest => plain rest
        | none => c :: cs
      else if c = '&' then
        match entity? cs with
        | some (name, shown) => shown :: plain (cs.drop name.length)
        | none => c :: plain cs
      else c :: plain cs
termination_by cs => cs.length
decreasing_by
  · have := length_afterTag?_lt _h
    simp only [List.length_cons]
    omega
  all_goals simp only [List.length_cons, List.length_drop]; omega

end Captioning.Markup
