import TextAdventure.Settings
import TextAdventure.Toml.Document

/-!
# Reading settings

Settings are read from a TOML document.  Keys that are missing keep their default and unknown keys
have no effect, but a known key has to hold a value of its type.

Main results:

- Definition `Settings.read?`: the settings of a document, nothing when it is faulty.
-/

namespace TextAdventure.Settings

open Toml (Entries Value)

/-- The value of a key, or the default when the key is missing. -/
def field? (entries : Entries) (key : String) (read? : Value → Option α) (default : α) : Option α :=
  match entries.lookup key with
  | some v => read? v
  | none => some default

/-- An integer from `low` up to, but without, `high`. -/
def integerIn? (low high : Int) : Value → Option Int
  | .integer n => if low ≤ n ∧ n < high then some n else none
  | _ => none

/-- A number below `bound`. -/
def naturalBelow? (bound : Nat) (v : Value) : Option Nat :=
  (integerIn? 0 bound v).map Int.toNat

/-- A number of at most 64 bits. -/
def natural? : Value → Option Nat :=
  naturalBelow? 0x10000000000000000

/-- A truth value. -/
def boolean? : Value → Option Bool
  | .boolean b => some b
  | _ => none

/-- A text. -/
def string? : Value → Option String
  | .string s => some s
  | _ => none

/-- The settings that the entries of a document describe. -/
def ofEntries? (entries : Entries) : Option Settings := do
  let d : Settings := {}
  let lamp ← field? entries "light_source_item" natural? d.lamp
  let destroyLamp ← field? entries "destroy_exhausted_light" boolean? d.destroyLamp
  let lightWarning ←
    field? entries "low_light_threshold" (integerIn? (-0x80000000) 0x80000000) d.lightWarning
  let fallChance ← field? entries "dark_fall_chance" (naturalBelow? 0x100000000) d.fallChance
  let delayMillis ← field? entries "delay_millis" natural? d.delayMillis
  let goVerb ← field? entries "go_verb" natural? d.goVerb
  let getVerb ← field? entries "get_verb" natural? d.getVerb
  let dropVerb ← field? entries "drop_verb" natural? d.dropVerb
  let saveFile ← field? entries "save_file" string? d.saveFile
  return {
    lamp, destroyLamp, lightWarning, fallChance, delayMillis, goVerb, getVerb, dropVerb, saveFile }

/-- The settings of a document. -/
def read? (text : String) : Option Settings :=
  (Toml.read? text).bind ofEntries?

end TextAdventure.Settings
