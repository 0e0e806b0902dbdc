import TextAdventure.Game.Output

/-!
# Transcripts

A record of printed output for later inspection: the completed lines, the text that waits for the
end of its line, and how often the screen was cleared.

Main results:

- Structure `Transcript` and definition `Transcript.renderAll`.
- Definition `Transcript.output`: the whole record as one text.
-/

namespace TextAdventure

/-- What has been printed so far. -/
structure Transcript where
  lines : List String := []
  pending : String := ""
  clears : Nat := 0
deriving Repr, DecidableEq, Inhabited

namespace Transcript

/-- Record an event.  Pauses and requests to save leave no trace. -/
def render (t : Transcript) : Event → Transcript
  | .line text => { t with lines := t.lines ++ [t.pending ++ text], pending := "" }
  | .text text => { t with pending := t.pending ++ text }
  | .clear => { t with clears := t.clears + 1 }
  | .delay _ | .save => t

/-- Record events in order. -/
def renderAll (t : Transcript) (events : List Event) : Transcript :=
  events.foldl render t

/-- The completed lines, parted by line breaks, and below them the text that waits for the end of
its line. -/
def output (t : Transcript) : String :=
  let completed := "\n".intercalate t.lines
  if t.pending = "" then completed
  else if completed = "" then t.pending
  else completed ++ "\n" ++ t.pending

/-- Events can be recorded in batches. -/
@[simp]
theorem renderAll_append (t : Transcript) (a b : List Event) :
    t.renderAll (a ++ b) = (t.renderAll a).renderAll b := by
  simp [renderAll]

end Transcript

end TextAdventure
