import TextAdventure.ActionTable.Command
import TextAdventure.ActionTable.Condition
import TextAdventure.Data.Scan

/-!
# Load errors

Why adventure data is refused.  Every fault is fatal: a game never starts in part of a world.

Main results:

- Inductives `LoadError.Section`, `LoadError.Field` and `LoadError.Site`: where a fault lies.
- Inductive `LoadError` with `LoadError.message`: the fault and its text.
-/

namespace TextAdventure

/-- The part of the data that is being read. -/
inductive LoadError.Section where
  | header
  | row (number : Nat)
  | room (number : Nat)
  | message (number : Nat)
  | item (number : Nat)
  | version
  | adventure
  | checksum
deriving Repr, DecidableEq

/-- A part of the data as error messages name it. -/
def LoadError.Section.text : LoadError.Section → String
  | header => "header"
  | row n => s!"action {n}"
  | room n => s!"room {n}"
  | message n => s!"message {n}"
  | item n => s!"item {n}"
  | version => "version"
  | adventure => "adventure number"
  | checksum => "checksum"

/-- A number of the data that has to lie in a range. -/
inductive LoadError.Field where
  | header
  | rowField
  | roomCount
  | startRoom
  | lightTime
  | roomExit
  | itemLocation
  | version
  | adventure
deriving Repr, DecidableEq

/-- A number of the data as error messages name it. -/
def LoadError.Field.text : LoadError.Field → String
  | header => "header"
  | rowField => "action field"
  | roomCount => "room count"
  | startRoom => "starting room"
  | lightTime => "light time"
  | roomExit => "room exit"
  | itemLocation => "item location"
  | version => "version"
  | adventure => "adventure number"

/-- The kind of token that the data has to hold next. -/
inductive LoadError.Expected where
  | number | quoted
deriving Repr, DecidableEq

/-- A kind of token as error messages name it. -/
def LoadError.Expected.text : LoadError.Expected → String
  | number => "number"
  | quoted => "quoted string"

/-- The condition or command of a row that names something the world does not have. -/
inductive LoadError.Site where
  | condition (c : Condition)
  | command (c : Command)
deriving Repr, DecidableEq

/-- A place in a row as error messages name it. -/
def LoadError.Site.text : LoadError.Site → String
  | condition c => s!"condition {c.text}"
  | command c => s!"command {c.text}"

/-- Why adventure data is refused. -/
inductive LoadError where
  | unclosedQuote (line : Nat)
  | truncated (place : LoadError.Section)
  | wrongKind (place : LoadError.Section) (line : Nat) (expected : LoadError.Expected)
      (found : Lexeme)
  | invalidValue (field : LoadError.Field) (value : Int)
  | invalidReference (row : Nat) (reference : Reference) (site : LoadError.Site)
  | checksum (expected : Nat) (found : Int)
deriving Repr, DecidableEq

/-- The text of an error. -/
def LoadError.message : LoadError → String
  | unclosedQuote line => s!"malformed input: unbalanced quote opened on line {line}"
  | truncated place => s!"truncated data while reading {place.text}"
  | wrongKind place line expected found =>
    s!"type mismatch in {place.text} (line {line}): " ++
      s!"expected {expected.text}, found {found.describe}"
  | invalidValue field value => s!"invalid value for {field.text}: {value}"
  | invalidReference row reference site =>
    s!"action {row} references {reference.complaint} in {site.text}"
  | checksum expected found => s!"checksum mismatch: expected {expected}, found {found}"

/-- An unclosed quote keeps the data from being read. -/
def LoadError.ofScan : ScanError → LoadError
  | .unclosedQuote line => .unclosedQuote line

end TextAdventure
