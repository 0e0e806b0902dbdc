import TextAdventure.Settings
import TextAdventure.Text.Blank
import TextAdventure.Vocabulary.Dictionary
import TextAdventure.Vocabulary.Direction

/-!
# Orders

What the player orders with a line of one word or two: a verb, a noun, and the noun as it was typed.

Main results:

- Structure `Order` and definition `Order.ofLine?`: the order of a line.
- Definition `Order.direction?`: the direction that an order moves the player in.
-/

namespace TextAdventure

open Text

/-- What the player ordered: a verb, a noun, and the noun as typed. -/
structure Order where
  verb : Nat
  noun : Nat
  noun? : Option String
deriving Repr, DecidableEq

namespace Order

/-- The order of a single word: a direction, or else a verb. -/
def ofWord? (world : World) (settings : Settings) (word : String) : Option Order :=
  match directionNoun? (upper word) with
  | some noun => some ⟨settings.goVerb, noun, some word⟩
  | none => (world.dictionary.verb? word).map fun verb => ⟨verb, 0, none⟩

/-- The noun of an order.  A direction that is not in the dictionary is known to the verb that moves
the player, and any other unknown noun counts as none. -/
def nounOf (world : World) (settings : Settings) (verb : Nat) (word : String) : Nat :=
  let typed := upper word
  match world.dictionary.noun? typed with
  | some noun => noun
  | none => if verb = settings.goVerb then (directionNoun? typed).getD 0 else 0

/-- The order of two words: a verb and a noun. -/
def ofPair? (world : World) (settings : Settings) (verbWord nounWord : String) : Option Order :=
  (world.dictionary.verb? verbWord).map fun verb =>
    ⟨verb, nounOf world settings verb nounWord, some nounWord⟩

/-- The order of a line, which has one word or two. -/
def ofLine? (world : World) (settings : Settings) (input : String) : Option Order :=
  match words input with
  | [word] => ofWord? world settings word
  | [verbWord, nounWord] => ofPair? world settings verbWord nounWord
  | _ => none

/-- The direction that an order moves the player in. -/
def direction? (order : Order) (settings : Settings) : Option Direction :=
  if order.verb = settings.goVerb then Direction.ofNoun? order.noun else none

end Order

end TextAdventure
