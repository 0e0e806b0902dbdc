import TextAdventure.Console.Options
import TextAdventure.Console.Play
import TextAdventure.Data.World
import TextAdventure.Settings.Read

/-!
# Opening a game

From the command line to the first prompt: the settings and the adventure are read, and the opening
of the game is shown.

Main results:

- Inductive `Opening`: a run ends at once, or there is a game to play.
- Definition `launch`: the opening of a run.
-/

namespace TextAdventure.Console

variable {m : Type → Type} [Monad m]

/-- How a run goes on from its command line. -/
inductive Opening where
  | exit (code : UInt8)
  | play (session : Session)

/-- The settings of a run. -/
def settings? (host : Host m) (options : Options) : m (Option Settings) := do
  match options.settings? with
  | none => return some {}
  | some path =>
    match ← host.read path with
    | .ok text => return Settings.read? text
    | .error _ => return none

/-- The world of a run, after a complaint if there is none. -/
def world? (host : Host m) (path : String) : m (Option World) := do
  match ← host.read path with
  | .error .notFound =>
    host.complain s!"Error: Game file not found: {path}\n\nPlease check the file path is correct.\n"
    return none
  | .error e =>
    host.complain
      s!"Error: Cannot load adventure '{path}': cannot read adventure file: {e.text}\n"
    return none
  | .ok text =>
    match World.read text with
    | .ok world => return some world
    | .error e =>
      host.complain s!"Error: Cannot load adventure '{path}': {e.message}\n"
      return none

/-- The dice of a run. -/
def dice (host : Host m) (options : Options) : m Dice := do
  match options.seed? with
  | some n => return Dice.ofSeed (UInt64.ofNat n)
  | none => return Dice.ofSeed (← host.seed)

/-- Launch a run that plays the given file. -/
def launchGame (host : Host m) (options : Options) (path : String) : m Opening := do
  match ← settings? host options with
  | none =>
    host.complain "Error: the configuration cannot be read\n"
    return .exit 1
  | some settings =>
    match ← world? host path with
    | none => return .exit 1
    | some world =>
      if options.headerOnly then
        host.print (world.header.text ++ "\n")
        return .exit 0
      else
        let s := Session.new world settings (← dice host options)
        return .play (← conclude host s.start)

/-- Launch a run, up to the first prompt. -/
def launch (host : Host m) (program : String) (arguments : List String) : m Opening := do
  match Options.ofArguments {} arguments with
  | .error e =>
    host.complain s!"Error: {e.message}\n"
    host.print (usage program)
    return .exit 2
  | .ok none =>
    host.print (usage program)
    return .exit 0
  | .ok (some options) =>
    match options.game? with
    | none =>
      host.print (usage program)
      return .exit 0
    | some path => launchGame host options path

end TextAdventure.Console
