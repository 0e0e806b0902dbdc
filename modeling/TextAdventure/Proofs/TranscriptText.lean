import Mathlib.Data.List.DropRight
import Mathlib.Data.List.Infix
import TextAdventure.Console.Transcript

/-!
# The text of a transcript

A transcript gathers completed lines and the text that waits for the end of its line, and puts them
together only when it is asked for its output.  What it puts together is what the events print one
after the other, without the last line break if nothing waits.  There is one exception: where all
that has been completed is a single empty line, the transcript takes it for no line at all, and the
text that waits appears without the line break before it.

Main results:

- Definitions `Event.openText` and `Event.completed`: the open line and the completed lines of some
  events, read off the events themselves.
- Theorem `Transcript.renderAll_eq_mk`: what a transcript of some events holds.
- Theorem `Transcript.printed_eq_iff`: when the output of a transcript is what has been printed.
- Theorem `Transcript.output_faithful`: the transcript of any batches of events.
-/

namespace TextAdventure

/-! ## Lines of events -/

namespace Event

/-- The event ends its line. -/
def endsLine : Event → Bool
  | line _ => true
  | text _ | clear | delay _ | save => false

/-- The text on the open line after some events: what they print after the last end of a line. -/
def openText (events : List Event) : String :=
  printedAll (events.rtakeWhile fun e => !e.endsLine)

/-- The line that the last of some events completes: the text that was on the open line before it,
and its own text. -/
def completedLast? (events : List Event) : Option String :=
  match events.getLast? with
  | some (line t) => some (openText events.dropLast ++ t)
  | _ => none

/-- The lines that some events complete, in order. -/
def completed (events : List Event) : List String :=
  events.inits.filterMap completedLast?

variable (events : List Event)

theorem printedAll_append (later : List Event) :
    printedAll (events ++ later) = printedAll events ++ printedAll later := by
  simp [printedAll]

theorem printedAll_singleton (e : Event) : printedAll [e] = e.printed := by
  simp [printedAll]

/-- Nothing is on the open line right after the end of a line. -/
theorem openText_append_line (t : String) : openText (events ++ [line t]) = "" := by
  rw [openText, List.rtakeWhile_concat_neg _ _ _ (by simp [endsLine])]
  rfl

/-- An event that does not end its line adds what it prints to the open line. -/
theorem openText_append_of_not_endsLine {e : Event} (h : e.endsLine = false) :
    openText (events ++ [e]) = openText events ++ e.printed := by
  rw [openText, List.rtakeWhile_concat_pos _ _ _ (by simp [h]), printedAll_append,
    printedAll_singleton]
  rfl

/-- Each event completes at most one more line. -/
theorem completed_append (e : Event) :
    completed (events ++ [e]) = completed events ++ (completedLast? (events ++ [e])).toList := by
  rw [completed, List.inits_append, List.filterMap_append]
  cases h : completedLast? (events ++ [e]) <;> simp [completed, h]

/-- The end of a line completes what was on the open line. -/
theorem completed_append_line (t : String) :
    completed (events ++ [line t]) = completed events ++ [openText events ++ t] := by
  simp [completed_append, completedLast?]

/-- Any other event completes no line. -/
theorem completed_append_of_not_endsLine {e : Event} (h : e.endsLine = false) :
    completed (events ++ [e]) = completed events := by
  cases e with
  | line t => cases h
  | text t | clear | delay millis | save => simp [completed_append, completedLast?]

end Event

/-! ## Lines and line breaks -/

/-- Lines that each end in a line break are the lines parted by line breaks, and one line break more
at the end. -/
theorem join_map_break {lines : List String} (h : lines ≠ []) :
    String.join (lines.map (· ++ "\n")) = "\n".intercalate lines ++ "\n" := by
  induction lines with
  | nil => exact absurd rfl h
  | cons l rest ih =>
    by_cases hrest : rest = []
    · simp [hrest]
    · rw [List.map_cons, String.join_cons, ih hrest, String.intercalate_cons_of_ne_nil hrest]
      simp only [String.append_assoc]

/-- Lines parted by line breaks leave no text only if there is none, or a single one that is
empty. -/
theorem intercalate_break_eq_empty_iff (lines : List String) :
    "\n".intercalate lines = "" ↔ lines = [] ∨ lines = [""] := by
  match lines with
  | [] => simp
  | [l] => simp
  | l :: m :: rest => simp [String.intercalate_cons_cons]

/-! ## Transcripts -/

namespace Transcript

/-- A transcript of some events holds the lines that they complete and the text on their open line,
and counts how often they clear the screen. -/
theorem renderAll_eq_mk (events : List Event) :
    ({} : Transcript).renderAll events =
      ⟨Event.completed events, Event.openText events, events.count .clear⟩ := by
  induction events using List.reverseRecOn with
  | nil => rfl
  | append_singleton events e ih =>
    rw [renderAll_append, ih]
    cases e with
    | line t =>
      rw [Event.completed_append_line, Event.openText_append_line]
      simp [renderAll, render]
    | text t | clear | delay millis | save =>
      rw [Event.completed_append_of_not_endsLine _ rfl, Event.openText_append_of_not_endsLine _ rfl]
      simp [renderAll, render, Event.printed]

/-- All that a transcript has recorded: each line with its line break, and the text that waits. -/
def printed (t : Transcript) : String :=
  String.join (t.lines.map (· ++ "\n")) ++ t.pending

/-- A transcript of some events has recorded what they print. -/
theorem printed_renderAll (events : List Event) :
    (({} : Transcript).renderAll events).printed = Event.printedAll events := by
  induction events using List.reverseRecOn with
  | nil => rfl
  | append_singleton events e ih =>
    rw [renderAll_append, Event.printedAll_append, ← ih, Event.printedAll_singleton]
    cases e <;> simp [renderAll, render, printed, Event.printed, String.append_assoc]

/-- The line break that the output leaves out at its end. -/
def lastBreak (t : Transcript) : String :=
  if t.lines ≠ [] ∧ t.pending = "" then "\n" else ""

/-- The only completed line is empty, and there is text that waits. -/
def HidesBreak (t : Transcript) : Prop :=
  t.lines = [""] ∧ t.pending ≠ ""

variable {t : Transcript}

/-- An empty line that is all that has been completed is not seen. -/
theorem printed_of_hidesBreak (h : t.HidesBreak) : t.printed = "\n" ++ t.output := by
  obtain ⟨hlines, hpending⟩ := h
  simp [printed, output, hlines, hpending]

/-- In all other cases the output is what has been recorded, up to its last line break. -/
theorem printed_of_not_hidesBreak (h : ¬t.HidesBreak) : t.printed = t.output ++ t.lastBreak := by
  by_cases hlines : t.lines = []
  · simp [printed, output, lastBreak, hlines]
  · rw [printed, join_map_break hlines]
    by_cases hpending : t.pending = ""
    · simp [output, lastBreak, hlines, hpending]
    · have hcompleted : "\n".intercalate t.lines ≠ "" := by
        rw [Ne, intercalate_break_eq_empty_iff, not_or]
        exact ⟨hlines, fun hline => h ⟨hline, hpending⟩⟩
      simp [output, lastBreak, hpending, hcompleted]

/-- The output is what has been recorded, up to its last line break, unless it hides a line break
elsewhere. -/
theorem printed_eq_iff : t.printed = t.output ++ t.lastBreak ↔ ¬t.HidesBreak := by
  constructor
  · intro h hhides
    have hlastBreak : t.lastBreak = "" := by simp [lastBreak, hhides.2]
    rw [printed_of_hidesBreak hhides, hlastBreak, String.append_empty] at h
    have hlength := congrArg String.length h
    rw [String.length_append] at hlength
    have hbreak : "\n".length = 1 := rfl
    omega
  · exact printed_of_not_hidesBreak

/-! ### Outputs, one after the other -/

/-- Record outputs, one after the other. -/
def renderOutputs (t : Transcript) (outs : List Output) : Transcript :=
  outs.foldl (fun t out => t.renderAll out.events) t

/-- Outputs that are recorded one after the other are recorded as all their events are. -/
theorem renderOutputs_eq (t : Transcript) (outs : List Output) :
    t.renderOutputs outs = t.renderAll (outs.flatMap Output.events) := by
  rw [renderAll, List.foldl_flatMap]
  rfl

/-- Outputs print what their events print. -/
theorem join_map_text (outs : List Output) :
    String.join (outs.map Output.text) = Event.printedAll (outs.flatMap Output.events) := by
  induction outs with
  | nil => rfl
  | cons out outs ih =>
    rw [List.map_cons, String.join_cons, ih, List.flatMap_cons, Event.printedAll_append]
    rfl

/-- Take any outputs and record their events in a new transcript, one output after the other.  The
transcript only depends on the events as a whole.  It holds the lines that they complete, in order,
and counts how often they clear the screen.  Its output is what has been printed, up to a last line
break if lines have been completed and nothing is on the open line: always, unless the only line
that has been completed is empty and there is text on the open line.  Then what has been printed has
a line break in front that the output has not. -/
theorem output_faithful (outs : List Output) :
    let events := outs.flatMap Output.events
    let t := ({} : Transcript).renderOutputs outs
    let printed := String.join (outs.map Output.text)
    let lastBreak := if Event.completed events ≠ [] ∧ Event.openText events = "" then "\n" else ""
    let hidesBreak := Event.completed events = [""] ∧ Event.openText events ≠ ""
    t = ({} : Transcript).renderAll events ∧
    t.lines = Event.completed events ∧
    t.clears = events.count .clear ∧
    (printed = t.output ++ lastBreak ↔ ¬hidesBreak) ∧
    (hidesBreak → printed = "\n" ++ t.output) := by
  intro events t printed lastBreak hidesBreak
  have ht : t = ({} : Transcript).renderAll events := renderOutputs_eq {} outs
  have hmk : t = ⟨Event.completed events, Event.openText events, events.count .clear⟩ :=
    ht.trans (renderAll_eq_mk events)
  have hprinted : printed = t.printed := by
    rw [ht, printed_renderAll]
    exact join_map_text outs
  have hlastBreak : lastBreak = t.lastBreak := by rw [hmk]; rfl
  have hhides : hidesBreak = t.HidesBreak := by rw [hmk]; rfl
  refine ⟨ht, by rw [hmk], by rw [hmk], ?_, ?_⟩
  · rw [hprinted, hlastBreak, hhides]
    exact printed_eq_iff
  · rw [hprinted, hhides]
    exact printed_of_hidesBreak

/-- Two outputs in which an empty line is followed by text on the open line, which comes out without
the line break in front. -/
theorem output_faithful_prompt :
    let outs : List Output :=
      [{ events := [.clear, .line "", .save] }, { events := [.text "> ", .delay 5, .clear] }]
    let events := outs.flatMap Output.events
    let t := ({} : Transcript).renderOutputs outs
    (Event.completed events = [""] ∧ Event.openText events ≠ "") ∧
      t.clears = 2 ∧ String.join (outs.map Output.text) = "\n" ++ t.output := by
  intro outs events t
  obtain ⟨-, -, hclears, -, hprinted⟩ := output_faithful outs
  have hhides : Event.completed events = [""] ∧ Event.openText events ≠ "" := by decide
  exact ⟨hhides, hclears, hprinted hhides⟩

/-- The output is not always what has been printed, up to a last line break. -/
theorem not_output_faithful :
    ¬∀ outs : List Output,
      let events := outs.flatMap Output.events
      let t := ({} : Transcript).renderOutputs outs
      String.join (outs.map Output.text) = t.output ++
        if Event.completed events ≠ [] ∧ Event.openText events = "" then "\n" else "" := by
  intro h
  exact absurd (h [{ events := [.line "", .text "x"] }]) (by decide)

end Transcript

end TextAdventure
