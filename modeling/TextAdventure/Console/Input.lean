import TextAdventure.Text.Lines

/-!
# What the player types

The player's input comes as bytes.  It is read line by line, and a line whose bytes are not text
cannot be read.

Main results:

- Definition `typedLines`: the lines of the input.
-/

namespace TextAdventure.Console

/-- The lines of the input; nothing stands for a line whose bytes are not text.  A carriage return
in front of a line feed is left in place, as blanks at the end of a line do not matter. -/
def typedLines (input : ByteArray) : List (Option String) :=
  (Text.splitLines 0xA [] input.data.toList).map fun line => String.fromUTF8? ⟨line.toArray⟩

end TextAdventure.Console
