/-!
# Screens

How output reaches the player: with screen control and pauses on a terminal, as plain text anywhere
else.

Main results:

- Inductive `ScreenMode` and definition `ScreenMode.isInteractive`.
- Inductive `ScreenError` with `ScreenError.message`.
-/

namespace TextAdventure

/-- How a screen is chosen. -/
inductive ScreenMode where
  /-- Screen control if the output goes to a terminal. -/
  | auto
  | terminal
  | plain
deriving Repr, DecidableEq

/-- The screen is cleared and output pauses. -/
def ScreenMode.isInteractive (mode : ScreenMode) (onTerminal : Bool) : Bool :=
  match mode with
  | auto => onTerminal
  | terminal => true
  | plain => false

/-- Why output cannot be shown. -/
inductive ScreenError where
  | other (reason : String)
  /-- The output cannot be written. -/
  | unwritable (reason : String)
deriving Repr, DecidableEq

/-- An error as it is shown. -/
def ScreenError.message : ScreenError → String
  | other reason => s!"Display error: {reason}"
  | unwritable reason => s!"Display error: I/O error: {reason}"

end TextAdventure
