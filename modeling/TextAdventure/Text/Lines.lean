/-!
# Lines

A text is read line by line: each line ends at a line feed, and a text that does not end with one
has a last line all the same.

Main results:

- Definition `lines`: the lines of a text, without their line feeds.
- Theorem `splitLines_append_feed`: lines that are complete are split off one by one.
-/

namespace TextAdventure.Text

variable {α : Type} [DecidableEq α]

/-- The lines of characters, or of bytes, that end at each `feed`; `pending` is the line being read,
last first. -/
def splitLines (feed : α) (pending : List α) : List α → List (List α)
  | [] => if pending.isEmpty then [] else [pending.reverse]
  | c :: rest =>
    if c = feed then pending.reverse :: splitLines feed [] rest
    else splitLines feed (c :: pending) rest

/-- The lines of a text. -/
def lines (s : String) : List String :=
  (splitLines '\n' [] s.toList).map String.ofList

/-- What holds no line feed belongs to the line being read. -/
theorem splitLines_append {feed : α} {cs : List α} (h : feed ∉ cs) (pending rest : List α) :
    splitLines feed pending (cs ++ rest) = splitLines feed (cs.reverse ++ pending) rest := by
  induction cs generalizing pending with
  | nil => rfl
  | cons c cs ih =>
    simp only [List.mem_cons, not_or] at h
    simp [splitLines, Ne.symm h.1, ih h.2]

/-- A complete line is split off in front of the rest. -/
theorem splitLines_append_feed {feed : α} {line : List α} (h : feed ∉ line)
    (pending rest : List α) :
    splitLines feed pending (line ++ feed :: rest) =
      (pending.reverse ++ line) :: splitLines feed [] rest := by
  rw [splitLines_append h, splitLines, if_pos rfl, List.reverse_append, List.reverse_reverse]

end TextAdventure.Text
