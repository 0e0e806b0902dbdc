import TextAdventure.Disk
import TextAdventure.Game.State
import TextAdventure.Text.Blank
import TextAdventure.Text.Lines
import TextAdventure.Text.Numeral

/-!
# Save files

A saved game is a text of lines `key:value`: the number of the adventure, then the counter, the
alternate counters, the room, the alternate rooms, the flags, the light and the location of every
item.  When a save file is read, blank lines, unknown keys and the order of the lines do not matter,
and of two lines with the same key the later one counts.

Main results:

- Definitions `render` and `SaveFile.read`: a state as text, and back.
- Inductive `SaveError`: why a save file is refused.
-/

namespace TextAdventure

open Text

/-! ## Errors -/

/-- Why a saved game cannot be written or restored. -/
inductive SaveError where
  /-- The file cannot be read or written. -/
  | file (error : FileError)
  | missingField (key : String)
  | invalidValue (key value : String)
  | wrongAdventure (expected found : Nat)
  | itemCount (expected found : Nat)
deriving Repr, DecidableEq

/-- An error as it is shown to the player. -/
def SaveError.message : SaveError → String
  | file error => s!"IO error: {error.text}"
  | missingField key => s!"save file is missing '{key}'"
  | invalidValue key value => s!"save file has an invalid value for '{key}': {value}"
  | wrongAdventure expected found =>
    s!"save file is for adventure {found}, not adventure {expected}"
  | itemCount expected found =>
    s!"save file holds {found} item locations, adventure has {expected}"

namespace SaveFile

/-! ## Fields -/

/-- The fields of a save file, in the order of its lines. -/
abbrev Fields := List (String × String)

/-- A key of a numbered field. -/
def key (name : String) (number : Nat) : String :=
  s!"{name}.{number}"

/-- Fields that are numbered from zero. -/
def numbered (name : String) (values : List String) : Fields :=
  values.zipIdx.map fun (value, number) => (key name number, value)

/-- The fields of a state. -/
def fields (s : State) (adventure : Nat) : Fields :=
  [("adventure", toString adventure), ("counter", toString s.counter)] ++
    numbered "alt_counter" ((s.altCounters.toList.take 8).map toString) ++
    [("current_room", toString s.room)] ++
    numbered "alt_room" (s.altRooms.toList.map toString) ++
    numbered "flag" ((List.range 32).map fun flag => if s.flags.get flag then "1" else "0") ++
    [("light", toString s.light)] ++
    numbered "item" (s.locations.map toString)

/-- The text of a saved game. -/
def render (s : State) (adventure : Nat) : String :=
  String.join ((fields s adventure).map fun (key, value) => s!"{key}:{value}\n")

/-! ## Lines -/

/-- The key and the value of a trimmed line, split at its first colon. -/
def fieldOfLine (line : String) : Except SaveError (String × String) :=
  match line.toList.span (· != ':') with
  | (_, []) => .error (.invalidValue line "")
  | (key, _ :: value) =>
    .ok (String.ofList (trimChars key), String.ofList (trimChars value))

/-- The fields of a text, or the first line that has no colon. -/
def parse (text : String) : Except SaveError Fields :=
  (((lines text).map trim).filter (· ≠ "")).mapM fieldOfLine

/-! ## Values -/

namespace Fields

/-- The value of a key; of several lines, the last one counts. -/
def value? (fs : Fields) (key : String) : Option String :=
  fs.reverse.lookup key

/-- The value of a key, read as a number. -/
def field (fs : Fields) (read : String → Option α) (key : String) : Except SaveError α :=
  match fs.value? key with
  | none => .error (.missingField key)
  | some value =>
    match read value with
    | some a => .ok a
    | none => .error (.invalidValue key value)

/-- The values of the keys that are numbered from `start` on, so many of them. -/
def fieldsFrom (fs : Fields) (read : String → Option α) (name : String) (start : Nat) :
    (count : Nat) → Except SaveError (Vector α count)
  | 0 => .ok #v[]
  | n + 1 => do
    let a ← fs.field read (key name start)
    let rest ← fs.fieldsFrom read name (start + 1) n
    return ⟨(a :: rest.toList).toArray, by simp⟩

/-- The value of a flag, which is 0 or 1. -/
def flag (fs : Fields) (number : Nat) : Except SaveError Bool := do
  let bit ← fs.field (natural? 256) (key "flag" number)
  if bit > 1 then .error (.invalidValue (key "flag" number) (toString bit)) else .ok (bit == 1)

/-- The flags from a number on, so many of them. -/
def flagsFrom (fs : Fields) (start : Nat) (flags : Flags) : Nat → Except SaveError Flags
  | 0 => .ok flags
  | n + 1 => do
    let value ← fs.flag start
    fs.flagsFrom (start + 1) (flags.set start value) n

/-- The locations of the items from a number on, up to the first one without a field.  Each item has
a field of its own, so there are no more of them than fields. -/
def itemsFrom (fs : Fields) (start : Nat) : Nat → Except SaveError (List Nat)
  | 0 => .ok []
  | n + 1 =>
    match fs.value? (key "item" start) with
    | none => .ok []
    | some _ => do
      let location ← fs.field natural64? (key "item" start)
      let rest ← fs.itemsFrom (start + 1) n
      return location :: rest

/-- The counter, which is not below minus one. -/
def counter (fs : Fields) : Except SaveError Int := do
  let counter ← fs.field integer32? "counter"
  if counter < -1 then .error (.invalidValue "counter" (toString counter)) else .ok counter

end Fields

/-! ## States -/

/-- The state that fields describe, refused when they belong to another adventure. -/
def stateOf (fs : Fields) (adventure : Nat) : Except SaveError State := do
  let found ← fs.field natural64? "adventure"
  if found ≠ adventure then throw (.wrongAdventure adventure found)
  let counter ← fs.counter
  let altCounters ← fs.fieldsFrom integer32? "alt_counter" 0 8
  let light ← fs.field integer32? "light"
  let altRooms ← fs.fieldsFrom natural64? "alt_room" 0 6
  let flags ← fs.flagsFrom 0 Flags.clear 32
  let locations ← fs.itemsFrom 0 fs.length
  let room ← fs.field natural64? "current_room"
  return {
    room, locations, flags, counter, altRooms
    altCounters := altCounters.push light
    chaining := false }

/-- The state that a text describes. -/
def read (text : String) (adventure : Nat) : Except SaveError State := do
  stateOf (← parse text) adventure

end SaveFile

end TextAdventure
