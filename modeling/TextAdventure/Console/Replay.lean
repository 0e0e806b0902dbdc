import TextAdventure.Console.Input
import TextAdventure.Console.Opening

/-!
# Replays

A run of the console program in which everything is given in advance: the command line, the files
and the input of the player.  Output is plain text, so that clearing the screen and pauses leave no
trace.

Main results:

- Structure `Replay`: the outside of such a run.
- Definitions `replayBytes` and `replay`: the run, with its exit code.
-/

namespace TextAdventure.Console

/-- The files of a run and what it has printed. -/
structure Replay where
  disk : Disk
  printed : String := ""
  complaints : String := ""
deriving Repr, DecidableEq, Inhabited

namespace Replay

/-- Read a file of the disk. -/
def read (path : String) : StateM Replay (Except FileError String) :=
  fun r => (r.disk.read path, r)

/-- Write a file of the disk. -/
def write (path text : String) : StateM Replay (Except FileError Unit) :=
  fun r =>
    match r.disk.write path text with
    | .ok disk => (.ok (), { r with disk })
    | .error e => (.error e, r)

/-- The outside of a run that is given in advance.  Unless a seed is given, it is zero. -/
def host : Host (StateM Replay) where
  read := read
  write := write
  print text := modify fun r => { r with printed := r.printed ++ text }
  complain text := modify fun r => { r with complaints := r.complaints ++ text }
  clear := pure ()
  pause _ := pure ()
  seed := pure 0

end Replay

/-- Run the program on typed lines, with its exit code. -/
def replayed (program : String) (arguments : List String) (typed : List (Option String)) :
    StateM Replay UInt8 := do
  match ← launch Replay.host program arguments with
  | .exit code => return code
  | .play s => playAll Replay.host typed s

/-- Run the program on a disk and a given input: its exit code, and what the outside is like
afterwards. -/
def replayBytes (program : String) (arguments : List String) (disk : Disk) (input : ByteArray) :
    UInt8 × Replay :=
  (replayed program arguments (typedLines input)).run { disk }

/-- The same for input that is text. -/
def replay (program : String) (arguments : List String) (disk : Disk) (input : String) :
    UInt8 × Replay :=
  replayBytes program arguments disk input.toUTF8

end TextAdventure.Console
