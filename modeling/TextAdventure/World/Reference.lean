/-!
# References

Conditions and commands name items, rooms, locations, flags, messages, alternate counters and
alternate rooms by number.

Main results:

- Inductive `Reference` with `Reference.label` and `Reference.complaint`: its two spellings.
-/

namespace TextAdventure

/-- Something that a condition or a command names by number. -/
inductive Reference where
  | item (number : Nat)
  | room (number : Nat)
  | location (number : Nat)
  | flag (number : Nat)
  | message (number : Nat)
  | altCounter (number : Nat)
  | altRoom (number : Nat)
deriving Repr, DecidableEq

namespace Reference

/-- The number named. -/
def number : Reference → Nat
  | item n | room n | location n | flag n | message n | altCounter n | altRoom n => n

/-- What kind of thing is named. -/
def noun : Reference → String
  | item _ => "Item"
  | room _ => "Room"
  | location _ => "Location"
  | flag _ => "Flag"
  | message _ => "Message"
  | altCounter _ => "AltCounter"
  | altRoom _ => "AltRoom"

/-- A reference as it is listed. -/
def label (r : Reference) : String :=
  s!"{r.noun}({r.number})"

/-- A reference as complaints name it. -/
def complaint (r : Reference) : String :=
  s!"{r.noun.toLower}({r.number})"

end Reference

end TextAdventure
