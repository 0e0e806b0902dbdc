import TextAdventure.Console.Opening
import TextAdventure.Console.Screen

/-!
# The command line

Runs the console program against the real files, the terminal and the player.
-/

namespace TextAdventure.Console

/-- Why the operating system refused a file. -/
def fileError : IO.Error → FileError
  | .noFileOrDirectory .. => .notFound
  | .inappropriateType _ code _ => if code = 21 then .isDirectory else .notDirectory
  | .invalidArgument _ code _ => if code = 22 then .nulInName else .nameTooLong
  | _ => .notDirectory

/-- Read a file as text. -/
def readText (path : String) : IO (Except FileError String) := do
  try
    match String.fromUTF8? (← IO.FS.readBinFile path) with
    | some text => return .ok text
    | none => return .error .notText
  catch e => return .error (fileError e)

/-- Write a text to a file. -/
def writeText (path text : String) : IO (Except FileError Unit) := do
  try
    IO.FS.writeFile path text
    return .ok ()
  catch e => return .error (fileError e)

/-- Print to the player at once. -/
def printNow (text : String) : IO Unit := do
  let out ← IO.getStdout
  out.putStr text
  out.flush

/-- A seed that nobody chose. -/
def freshSeed : IO UInt64 := do
  let bytes ← IO.getRandomBytes 8
  return bytes.foldl (fun n b => n * 256 + b.toUInt64) 0

/-- The real outside. -/
def terminal (interactive : Bool) : Host IO where
  read := readText
  write := writeText
  print := printNow
  complain := IO.eprint
  clear := if interactive then printNow "\x1b[2J\x1b[1;1H" else pure ()
  pause millis := if interactive then IO.sleep (UInt32.ofNat millis) else pure ()
  seed := freshSeed

/-- The next line that the player types, empty at the end of the input; nothing if its bytes are not
text. -/
def typedLine : IO (Option String) := do
  try
    return some (← (← IO.getStdin).getLine)
  catch _ => return none

/-- Answer the player's lines as they are typed, and give the exit code. -/
partial def playTyped (host : Host IO) (s : Session) : IO UInt8 := do
  if s.halted.isSome then return 0
  host.print prompt
  match ← typedLine with
  | none =>
    host.complain unreadable
    return 1
  | some line =>
    if line.isEmpty then return 0
    match ← answer host s line with
    | some next => playTyped host next
    | none => return 0

end TextAdventure.Console

open TextAdventure Console in
/-- Play an adventure. -/
def main (arguments : List String) : IO UInt32 := do
  let interactive := ScreenMode.auto.isInteractive (← (← IO.getStdout).isTty)
  let host := terminal interactive
  let program := (← IO.appPath).fileName.getD "lamplight"
  match ← launch host program arguments with
  | .exit code => return code.toUInt32
  | .play s => return (← playTyped host s).toUInt32
