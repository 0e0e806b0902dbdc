import TextAdventure.Console.Host
import TextAdventure.Game.Saved

/-!
# Playing at a prompt

The lines that the player types.  Some of them are for the program itself: to quit, to save the
game and to load it.  All others are turns of the game.  A line that cannot be read ends the run.

Main results:

- Inductive `Request` with `Request.ofLine`: what a line asks for.
- Definitions `answer` and `playAll`: one line, and all lines.
-/

namespace TextAdventure.Console

open Text

variable {m : Type → Type} [Monad m]

/-! ## Saved games -/

/-- Save the game to the file that the settings name. -/
def save (host : Host m) (s : Session) : m Unit := do
  match ← host.write s.settings.saveFile s.save with
  | .ok () => host.line "Game saved."
  | .error e => host.line s!"Cannot save game: {(SaveError.file e).message}"

/-- The session of a saved game. -/
def reload (host : Host m) (s : Session) : m (Except SaveError Session) := do
  match ← host.read s.settings.saveFile with
  | .ok text => return s.load text
  | .error e => return .error (.file e)

/-- Load the game from the file that the settings name. -/
def load (host : Host m) (s : Session) : m Session := do
  match ← reload host s with
  | .ok loaded =>
    host.line "Game loaded."
    loaded.describeRoom.forM host.line
    return loaded
  | .error e =>
    host.line s!"Cannot load game: {e.message}"
    return s

/-! ## Playing -/

/-- Show the output of a turn, and save the game if it asks for that. -/
def conclude (host : Host m) (turn : Session × Output) : m Session := do
  turn.2.events.forM host.render
  if turn.2.events.contains .save then save host turn.1
  return turn.1

/-- The text in front of the player's line. -/
def prompt : String := "Tell me what to do ? "

/-- What a line asks the program to do. -/
inductive Request where
  | quit
  | save
  | load
  /-- A line for the game. -/
  | play
deriving Repr, DecidableEq

/-- The request of a line.  Blanks around it and the case of its letters do not matter. -/
def Request.ofLine (line : String) : Request :=
  let typed := upper (trim line)
  if typed = "QUIT" then quit
  else if typed ∈ ["SAVE", "SAVE GAME"] then save
  else if typed ∈ ["LOAD", "LOAD GAME", "RESTORE", "RESTORE GAME"] then load
  else play

/-- Answer a line; nothing when the player quits. -/
def answer (host : Host m) (s : Session) (line : String) : m (Option Session) := do
  match Request.ofLine line with
  | .quit => return none
  | .save =>
    save host s
    return some s
  | .load => return some (← load host s)
  | .play => return some (← conclude host (s.turn line))

/-- The complaint about a line whose bytes are not text. -/
def unreadable : String :=
  "Error: Error \x7b kind: InvalidData, message: \"stream did not contain valid UTF-8\" \x7d\n"

/-- Answer lines until the game stops, the player quits, there are no more lines or a line cannot be
read, and give the exit code. -/
def playAll (host : Host m) : List (Option String) → Session → m UInt8
  | lines, s =>
    if s.halted.isSome then pure 0
    else do
      host.print prompt
      match lines with
      | [] => pure 0
      | none :: _ =>
        host.complain unreadable
        pure 1
      | some line :: rest =>
        match ← answer host s line with
        | some next => playAll host rest next
        | none => pure 0

end TextAdventure.Console
