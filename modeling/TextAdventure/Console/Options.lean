import TextAdventure.Text.Numeral

/-!
# Options

The command line of the console program.

Main results:

- Structure `Options` and definition `Options.ofArguments`: what a command line asks for.
- Inductive `OptionError` with `OptionError.message`: what is wrong with a command line.
- Definition `usage`: how the program is used.
-/

namespace TextAdventure.Console

open Text

/-- What the command line asks for. -/
structure Options where
  game? : Option String := none
  settings? : Option String := none
  seed? : Option Nat := none
  /-- Show the header of the adventure, and do not play. -/
  headerOnly : Bool := false
deriving Repr, DecidableEq, Inhabited

/-- What is wrong with a command line. -/
inductive OptionError where
  | settingsMissing
  | seedMissing
  | invalidSeed (text : String)
  | unknownOption (option : String)
deriving Repr, DecidableEq

/-- An error as it is shown to the player. -/
def OptionError.message : OptionError → String
  | settingsMissing => "--config needs a file name"
  | seedMissing => "--seed needs a number"
  | invalidSeed text => s!"Invalid seed: {text}"
  | unknownOption option => s!"Unknown option {option}"

/-- An argument that can only be an option. -/
def isOption (argument : String) : Bool :=
  ['-', '-'].isPrefixOf argument.toList

/-- The options of a command line, or nothing when it asks for help.  Of several values, the last
one counts. -/
def Options.ofArguments (found : Options) : List String → Except OptionError (Option Options)
  | [] => .ok (some found)
  | "--config" :: [] => .error .settingsMissing
  | "--config" :: file :: rest => ofArguments { found with settings? := some file } rest
  | "--seed" :: [] => .error .seedMissing
  | "--seed" :: number :: rest =>
    match natural64? number with
    | some n => ofArguments { found with seed? := some n } rest
    | none => .error (.invalidSeed number)
  | "--info" :: rest => ofArguments { found with headerOnly := true } rest
  | argument :: rest =>
    if argument = "-h" ∨ argument = "--help" then .ok none
    else if isOption argument then .error (.unknownOption argument)
    else ofArguments { found with game? := some argument } rest

/-- How the program is used. -/
def usage (program : String) : String :=
  String.join [
    "lamplight - interpreter for table-driven text adventures\n",
    "\n",
    s!"Usage: {program} <game.dat> [--config file] [--seed n] [--info]\n",
    "\n",
    "  --config file   engine settings in TOML\n",
    "  --seed n        predictable random numbers\n",
    "  --info          print the adventure header and exit\n",
    "\n",
    "While playing: QUIT, SAVE and LOAD are always available.\n"]

end TextAdventure.Console
